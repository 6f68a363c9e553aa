import P4dra.Tools.VerifierRuns

/-
  The frames that one capture of `verifica_p4dra_rede` sends.

  The child process is any program: a function from the command
  it is started with to what it prints. The counter of the
  handler picks the row for the command and ends the capture,
  so after `k` Replies it is `k`, and the `k`-th Reply is
  answered with its own fields and the output of its child.

  Main declarations:
    * `VerificaRede.pcapLoop`, `VerificaRede.respostas`
    * `VerificaRede.Verificacao`
    * `VerificaRede.tratarChegada_resposta`
    * `VerificaRede.pcapLoop_respostas`
-/

------------------------------------------------------------
-- The Loop
------------------------------------------------------------

namespace P4dra

open Bytes (Byte slice swapWords)
open Tna (Frame)

namespace Tools

namespace VerificaRede

/-
  A captured frame, with what the program that `popen` starts
  for it prints and the heap of the handler.
-/
structure Chegada where
  packet : Frame
  filho : List Char → List Char
  heap : List Char

/- `pacoteVerificacao` with any program as the child. -/
def pacoteDoFilho
    (filho : List Char → List Char)
    (heap : List Char)
    (packet : Frame)
    (chaveHex configuracao : List Char) : Option Frame :=
  let idRodadaHex :=
    swapEndian (byteArrayToHexstring (operHdrIdRodada packet))
      idRodadaLen
  let param1Hex := slice 0 nonceLen idRodadaHex
  let param2Hex := slice nonceLen nonceLen idRodadaHex
  let idDispositivoHex :=
    swapEndian
      (byteArrayToHexstring (replyIdDispositivo packet))
      idDispositivoLen
  let provaHex :=
    swapEndian (byteArrayToHexstring (replyProva packet))
      provaLen
  let saida :=
    filho
      (comando chaveHex param2Hex param1Hex idDispositivoHex
        configuracao)
  let verificacaoHex := getline heap saida
  enviaPacoteVerificacao (etherDhost packet)
    (etherShost packet) idRodadaHex idDispositivoHex provaHex
    verificacaoHex

/- The proof program is one of these children. -/
theorem pacoteVerificacao_eq_pacoteDoFilho
    (memoria : ForroArgsDra.Memoria)
    (heap : List Char)
    (packet : Frame)
    (chaveHex configuracao : List Char) :
    pacoteVerificacao memoria heap packet chaveHex
        configuracao =
      pacoteDoFilho
        (fun linha =>
          (ForroArgsDra.main memoria
            (palavrasDoShell linha)).getD [])
        heap packet chaveHex configuracao := rfl

/- The test of `packet_handler` for a Reply. -/
def EhResposta (packet : Frame) : Prop :=
  etherType packet = etherTypeCustom ∧
    operHdrOper packet = [0x2]

instance (packet : Frame) : Decidable (EhResposta packet) :=
  inferInstanceAs (Decidable (_ ∧ _))

/- `packet_handler`: the new globals and the frame sent. -/
def tratarChegada
    (dados : Dados)
    (totalPacotes : BitVec 32)
    (estado : Estado)
    (chegada : Chegada) : Estado × Option Frame :=
  if EhResposta chegada.packet then
    let chaveHex :=
      buscarPorIdDireto dados estado.contadorPacotes
    let contador := estado.contadorPacotes + 1
    ({ contadorPacotes := contador
       interrompido :=
        estado.interrompido || contador = totalPacotes },
      pacoteDoFilho chegada.filho chegada.heap chegada.packet
        chaveHex ['0'])
  else
    (estado, none)

/- The end of a capture, with the frames that were not taken. -/
structure Captacao where
  estado : Estado
  enviados : List Frame
  restantes : List Chegada

/- `pcap_loop` until it is broken or nothing more arrives. -/
def pcapLoop
    (dados : Dados)
    (totalPacotes : BitVec 32) :
    Estado → List Chegada → Captacao
| estado, [] => ⟨estado, [], []⟩
| estado, chegada :: chegadas =>
    if estado.interrompido then
      ⟨estado, [], chegada :: chegadas⟩
    else
      let (seguinte, enviado) :=
        tratarChegada dados totalPacotes estado chegada
      let fim := pcapLoop dados totalPacotes seguinte chegadas
      { fim with enviados := enviado.toList ++ fim.enviados }

------------------------------------------------------------
-- One Reply
------------------------------------------------------------

/- The Replies among the captured frames, in order. -/
def respostas (chegadas : List Chegada) : List Chegada :=
  chegadas.filter (fun chegada => EhResposta chegada.packet)

/- The frame has the headers that its operation is read with. -/
structure Longo (packet : Frame) : Prop where
  oper : 31 ≤ packet.length
  resposta : operHdrOper packet = [0x2] → 111 ≤ packet.length

/- The output starts with the digits of a proof. -/
def ImprimeProva (saida : List Char) : Prop :=
  Hex.IsHex (saida.take provaLen) ∧ provaLen ≤ saida.length

/- The command for the Reply that so many came before. -/
def comandoDaResposta
    (dados : Dados)
    (k : Nat)
    (packet : Frame) : List Char :=
  comando (dados.row (k % 20000)).chave.toList
    (slice 16 16 (digitosTrocados (operHdrIdRodada packet)))
    (slice 0 16 (digitosTrocados (operHdrIdRodada packet)))
    (digitosTrocados (replyIdDispositivo packet)) ['0']

/- What the child of that Reply prints. -/
def saidaDoFilho
    (dados : Dados)
    (k : Nat)
    (chegada : Chegada) : List Char :=
  chegada.filho (comandoDaResposta dados k chegada.packet)

/- The frame that answers it. -/
def quadroDaResposta
    (dados : Dados)
    (k : Nat)
    (chegada : Chegada) : Frame :=
  criaPacoteVerificacao (etherShost chegada.packet)
    (etherDhost chegada.packet) [0x4]
    (operHdrIdRodada chegada.packet)
    (replyIdDispositivo chegada.packet)
    (swapWords
      (Hex.decode ((saidaDoFilho dados k chegada).take provaLen)))
    (replyProva chegada.packet)

/- A child that prints a proof leads to one frame. -/
theorem pacoteDoFilho_eq
    (filho : List Char → List Char)
    (heap : List Char)
    {packet : Frame}
    (hLength : 111 ≤ packet.length)
    (chaveHex : List Char)
    {saida : List Char}
    (hSaida :
      filho
          (comando chaveHex
            (slice 16 16
              (digitosTrocados (operHdrIdRodada packet)))
            (slice 0 16
              (digitosTrocados (operHdrIdRodada packet)))
            (digitosTrocados (replyIdDispositivo packet))
            ['0']) =
        saida)
    (hProva : ImprimeProva saida) :
    pacoteDoFilho filho heap packet chaveHex ['0'] =
      some
        (criaPacoteVerificacao (etherShost packet)
          (etherDhost packet) [0x4] (operHdrIdRodada packet)
          (replyIdDispositivo packet)
          (swapWords (Hex.decode (saida.take provaLen)))
          (replyProva packet)) := by
  have hIdRodada : (operHdrIdRodada packet).length = 16 :=
    Bytes.length_slice (by omega)
  have hIdDispositivo :
      (replyIdDispositivo packet).length = 16 :=
    Bytes.length_slice (by omega)
  have hReply : (replyProva packet).length = 64 :=
    Bytes.length_slice (by omega)
  have hDigitos : (saida.take provaLen).length = provaLen := by
    rw [List.length_take]
    exact Nat.min_eq_left hProva.2
  have hNonempty : saida.take provaLen ≠ [] := by
    apply List.ne_nil_of_length_pos
    rw [hDigitos]
    decide
  rcases getline_append_of_isHex heap (saida.drop provaLen)
      hProva.1 hNonempty with ⟨apos, hLinha⟩
  rw [List.take_append_drop] at hLinha
  unfold pacoteDoFilho
  rw [@swapEndian_byteArrayToHexstring _ idRodadaLen
      (by rw [hIdRodada]; rfl),
    @swapEndian_byteArrayToHexstring _
      idDispositivoLen
      (by rw [hIdDispositivo]; rfl),
    @swapEndian_byteArrayToHexstring _ provaLen
      (by rw [hReply]; rfl)]
  simp only [nonceLen]
  rw [hSaida, hLinha]
  exact enviaPacoteVerificacao_eq _ _ apos hIdRodada
    hIdDispositivo hReply hProva.1 hDigitos

/- The globals after so many Replies and before the last one. -/
def aposRespostas (k : Nat) : Estado where
  contadorPacotes := BitVec.ofNat 32 k
  interrompido := false

theorem contador_aposRespostas
    {totalPacotes : BitVec 32}
    {k : Nat}
    (hk : k < totalPacotes.toNat) :
    BitVec.ofNat 32 k + 1 = BitVec.ofNat 32 (k + 1) ∧
      (BitVec.ofNat 32 (k + 1) = totalPacotes ↔
        k + 1 = totalPacotes.toNat) := by
  have hLt := totalPacotes.isLt
  constructor
  · exact (BitVec.ofNat_add k 1).symm
  · rw [← BitVec.toNat_inj, BitVec.toNat_ofNat,
      Nat.mod_eq_of_lt (by omega)]

/- A Reply that is not the last one leaves the capture open. -/
theorem aposRespostas_succ
    {totalPacotes : BitVec 32}
    {k : Nat}
    (hFim : k + 1 ≠ totalPacotes.toNat) :
    ({ contadorPacotes := BitVec.ofNat 32 (k + 1)
       interrompido := decide (k + 1 = totalPacotes.toNat) } :
      Estado) =
      aposRespostas (k + 1) := by
  simp [aposRespostas, hFim]

/- Every Reply is counted. -/
theorem estado_tratarChegada
    (dados : Dados)
    {totalPacotes : BitVec 32}
    {k : Nat}
    (hk : k < totalPacotes.toNat)
    {chegada : Chegada}
    (hResposta : EhResposta chegada.packet) :
    (tratarChegada dados totalPacotes (aposRespostas k)
        chegada).1 =
      { contadorPacotes := BitVec.ofNat 32 (k + 1)
        interrompido :=
          decide (k + 1 = totalPacotes.toNat) } := by
  rcases contador_aposRespostas hk with ⟨hSoma, hFim⟩
  unfold tratarChegada
  rw [if_pos hResposta]
  simp only [aposRespostas, hSoma, hFim, Bool.false_or]

/- The Reply after `k` others is counted and answered. -/
theorem tratarChegada_resposta
    (dados : Dados)
    {totalPacotes : BitVec 32}
    {k : Nat}
    (hk : k < totalPacotes.toNat)
    {chegada : Chegada}
    (hResposta : EhResposta chegada.packet)
    (hLength : 111 ≤ chegada.packet.length)
    (hProva : ImprimeProva (saidaDoFilho dados k chegada)) :
    tratarChegada dados totalPacotes (aposRespostas k)
        chegada =
      ({ contadorPacotes := BitVec.ofNat 32 (k + 1)
         interrompido := decide (k + 1 = totalPacotes.toNat) },
        some (quadroDaResposta dados k chegada)) := by
  have hLt := totalPacotes.isLt
  have hContador : (BitVec.ofNat 32 k).toNat = k := by
    rw [BitVec.toNat_ofNat]
    exact Nat.mod_eq_of_lt (by omega)
  have hRow :
      buscarPorIdDireto dados (BitVec.ofNat 32 k) =
        (dados.row (k % 20000)).chave.toList := by
    rw [buscarPorIdDireto, hContador]
  have hPacote :=
    pacoteDoFilho_eq chegada.filho chegada.heap hLength
      (dados.row (k % 20000)).chave.toList rfl hProva
  apply Prod.ext
  · exact estado_tratarChegada dados hk hResposta
  · unfold tratarChegada
    rw [if_pos hResposta]
    simp only [aposRespostas, hRow, hPacote]
    rfl

/- Other frames change nothing and are not answered. -/
theorem tratarChegada_outra
    (dados : Dados)
    (totalPacotes : BitVec 32)
    (estado : Estado)
    {chegada : Chegada}
    (hResposta : ¬ EhResposta chegada.packet) :
    tratarChegada dados totalPacotes estado chegada =
      (estado, none) := by
  rw [tratarChegada, if_neg hResposta]

------------------------------------------------------------
-- The Whole Capture
------------------------------------------------------------

theorem respostas_cons_resposta
    {chegada : Chegada}
    (chegadas : List Chegada)
    (hResposta : EhResposta chegada.packet) :
    respostas (chegada :: chegadas) =
      chegada :: respostas chegadas :=
  List.filter_cons_of_pos (by simpa using hResposta)

theorem respostas_cons_outra
    {chegada : Chegada}
    (chegadas : List Chegada)
    (hResposta : ¬ EhResposta chegada.packet) :
    respostas (chegada :: chegadas) = respostas chegadas :=
  List.filter_cons_of_neg (by simpa using hResposta)

/- A capture that was broken takes no frame. -/
theorem pcapLoop_interrompido
    (dados : Dados)
    (totalPacotes : BitVec 32)
    {estado : Estado}
    (hEstado : estado.interrompido = true)
    (chegadas : List Chegada) :
    pcapLoop dados totalPacotes estado chegadas =
      ⟨estado, [], chegadas⟩ := by
  cases chegadas with
  | nil => rfl
  | cons chegada chegadas =>
      unfold pcapLoop
      rw [if_pos hEstado]

/- The children of the Replies from the `k`-th on. -/
def FilhosImprimem
    (dados : Dados)
    (totalPacotes : BitVec 32)
    (k : Nat)
    (chegadas : List Chegada) : Prop :=
  ∀ i chegada, (respostas chegadas)[i]? = some chegada →
    k + i < totalPacotes.toNat →
    ImprimeProva (saidaDoFilho dados (k + i) chegada)

theorem FilhosImprimem.outra
    {dados : Dados}
    {totalPacotes : BitVec 32}
    {k : Nat}
    {chegada : Chegada}
    {chegadas : List Chegada}
    (hResposta : ¬ EhResposta chegada.packet)
    (h :
      FilhosImprimem dados totalPacotes k
        (chegada :: chegadas)) :
    FilhosImprimem dados totalPacotes k chegadas := by
  unfold FilhosImprimem at h
  rw [respostas_cons_outra chegadas hResposta] at h
  exact h

theorem FilhosImprimem.resposta
    {dados : Dados}
    {totalPacotes : BitVec 32}
    {k : Nat}
    (hk : k < totalPacotes.toNat)
    {chegada : Chegada}
    {chegadas : List Chegada}
    (hResposta : EhResposta chegada.packet)
    (h :
      FilhosImprimem dados totalPacotes k
        (chegada :: chegadas)) :
    ImprimeProva (saidaDoFilho dados k chegada) ∧
      FilhosImprimem dados totalPacotes (k + 1) chegadas := by
  unfold FilhosImprimem at h
  rw [respostas_cons_resposta chegadas hResposta] at h
  constructor
  · exact h 0 chegada rfl hk
  · intro i seguinte hSeguinte hLess
    have hIndex : k + 1 + i = k + (i + 1) := by omega
    rw [hIndex]
    exact h (i + 1) seguinte hSeguinte (by omega)

/- The frames that are sent after `k` Replies. -/
theorem enviados_pcapLoop
    (dados : Dados)
    (totalPacotes : BitVec 32)
    (chegadas : List Chegada)
    (k : Nat)
    (hk : k < totalPacotes.toNat)
    (hLongos : ∀ x ∈ chegadas, Longo x.packet)
    (hFilhos : FilhosImprimem dados totalPacotes k chegadas) :
    (pcapLoop dados totalPacotes (aposRespostas k)
        chegadas).enviados =
      (((respostas chegadas).take (totalPacotes.toNat - k)).zipIdx
          k).map
        (fun x => quadroDaResposta dados x.2 x.1) := by
  induction chegadas generalizing k with
  | nil => simp [pcapLoop, respostas]
  | cons chegada chegadas ih =>
      have hLongo := hLongos chegada List.mem_cons_self
      have hOutros : ∀ x ∈ chegadas, Longo x.packet :=
        fun x hx => hLongos x (List.mem_cons_of_mem _ hx)
      have hAberto : (aposRespostas k).interrompido = false := rfl
      unfold pcapLoop
      rw [hAberto, if_neg Bool.false_ne_true]
      by_cases hResposta : EhResposta chegada.packet
      · rcases hFilhos.resposta hk hResposta with
          ⟨hProva, hDepois⟩
        have hPasso :=
          tratarChegada_resposta dados hk hResposta
            (hLongo.resposta hResposta.2) hProva
        have hResto :
            totalPacotes.toNat - k =
              totalPacotes.toNat - (k + 1) + 1 := by
          omega
        rw [hPasso, respostas_cons_resposta chegadas hResposta,
          hResto, List.take_succ_cons, List.zipIdx_cons,
          List.map_cons]
        simp only [Option.toList_some, List.singleton_append]
        congr 1
        by_cases hFim : k + 1 = totalPacotes.toNat
        · rw [pcapLoop_interrompido _ _ (by simpa using hFim),
            hFim, Nat.sub_self]
          rfl
        · rw [aposRespostas_succ hFim]
          exact ih (k + 1) (by omega) hOutros hDepois
      · rw [tratarChegada_outra _ _ _ hResposta,
          respostas_cons_outra chegadas hResposta]
        exact ih k hk hOutros (hFilhos.outra hResposta)

/-
  After `k` Replies the capture either takes every frame, with
  fewer Replies than it waits for, or ends behind the last one.
-/
theorem fim_pcapLoop
    (dados : Dados)
    (totalPacotes : BitVec 32)
    (chegadas : List Chegada)
    (k : Nat)
    (hk : k < totalPacotes.toNat) :
    let fim :=
      pcapLoop dados totalPacotes (aposRespostas k) chegadas
    (fim.estado.interrompido = false ∧ fim.restantes = [] ∧
        k + (respostas chegadas).length < totalPacotes.toNat) ∨
      (fim.estado.interrompido = true ∧
        ∃ antes ultima,
          chegadas = antes ++ ultima :: fim.restantes ∧
            EhResposta ultima.packet ∧
            k + (respostas antes).length + 1 =
              totalPacotes.toNat) := by
  induction chegadas generalizing k with
  | nil => exact Or.inl ⟨rfl, rfl, hk⟩
  | cons chegada chegadas ih =>
      have hAberto : (aposRespostas k).interrompido = false := rfl
      unfold pcapLoop
      rw [hAberto, if_neg Bool.false_ne_true]
      by_cases hResposta : EhResposta chegada.packet
      · simp only [estado_tratarChegada dados hk hResposta]
        by_cases hFim : k + 1 = totalPacotes.toNat
        · rw [pcapLoop_interrompido _ _ (by simpa using hFim)]
          exact Or.inr ⟨by simpa using hFim, [], chegada, rfl,
            hResposta, hFim⟩
        · rw [aposRespostas_succ hFim]
          rcases ih (k + 1) (by omega) with
            ⟨hFlag, hRest, hLess⟩ |
              ⟨hFlag, antes, ultima, hSplit, hUltima, hCount⟩
          · refine Or.inl ⟨hFlag, hRest, ?_⟩
            rw [respostas_cons_resposta chegadas hResposta,
              List.length_cons]
            omega
          · refine Or.inr
              ⟨hFlag, chegada :: antes, ultima, ?_, hUltima, ?_⟩
            · exact congrArg (chegada :: ·) hSplit
            · rw [respostas_cons_resposta antes hResposta,
                List.length_cons]
              omega
      · simp only [tratarChegada_outra dados totalPacotes
          (aposRespostas k) hResposta]
        rcases ih k hk with
          ⟨hFlag, hRest, hLess⟩ |
            ⟨hFlag, antes, ultima, hSplit, hUltima, hCount⟩
        · refine Or.inl ⟨hFlag, hRest, ?_⟩
          rw [respostas_cons_outra chegadas hResposta]
          exact hLess
        · refine Or.inr
            ⟨hFlag, chegada :: antes, ultima, ?_, hUltima, ?_⟩
          · exact congrArg (chegada :: ·) hSplit
          · rw [respostas_cons_outra antes hResposta]
            exact hCount

/-
  A verification frame for a Reply: the addresses exchanged,
  the fields of the Reply unchanged, and the output of the
  child with its words swapped.
-/
structure Verificacao
    (packet : Frame)
    (saida : List Char)
    (quadro : Frame) : Prop where
  length : quadro.length = 175
  dhost : etherDhost quadro = etherShost packet
  shost : etherShost quadro = etherDhost packet
  type : etherType quadro = etherTypeCustom
  oper : operHdrOper quadro = [0x4]
  idRodada : operHdrIdRodada quadro = operHdrIdRodada packet
  idDispositivo : slice 31 16 quadro = replyIdDispositivo packet
  verificacao :
    slice 47 64 quadro =
      swapWords (Hex.decode (saida.take provaLen))
  prova : slice 111 64 quadro = replyProva packet

theorem verificacao_criaPacoteVerificacao
    {packet : Frame}
    (hLength : 111 ≤ packet.length)
    {saida : List Char}
    (hProva : ImprimeProva saida) :
    Verificacao packet saida
      (criaPacoteVerificacao (etherShost packet)
        (etherDhost packet) [0x4] (operHdrIdRodada packet)
        (replyIdDispositivo packet)
        (swapWords (Hex.decode (saida.take provaLen)))
        (replyProva packet)) := by
  have hDhost : (etherDhost packet).length = 6 :=
    Bytes.length_slice (by omega)
  have hShost : (etherShost packet).length = 6 :=
    Bytes.length_slice (by omega)
  have hType : etherTypeCustom.length = 2 := rfl
  have hIdRodada : (operHdrIdRodada packet).length = 16 :=
    Bytes.length_slice (by omega)
  have hIdDispositivo :
      (replyIdDispositivo packet).length = 16 :=
    Bytes.length_slice (by omega)
  have hReply : (replyProva packet).length = 64 :=
    Bytes.length_slice (by omega)
  have hSaida :
      (swapWords
          (Hex.decode (saida.take provaLen))).length = 64 := by
    rw [Bytes.length_swapWords, Hex.length_decode,
      List.length_take, Nat.min_eq_left hProva.2]
    rfl
  let campos : List (List Byte) :=
    [etherShost packet, etherDhost packet, etherTypeCustom,
      [0x4], operHdrIdRodada packet, replyIdDispositivo packet,
      swapWords (Hex.decode (saida.take provaLen)),
      replyProva packet]
  have hQuadro :
      criaPacoteVerificacao (etherShost packet)
          (etherDhost packet) [0x4] (operHdrIdRodada packet)
          (replyIdDispositivo packet)
          (swapWords (Hex.decode (saida.take provaLen)))
          (replyProva packet) =
        campos.flatten := by
    simp [criaPacoteVerificacao, campos]
  rw [hQuadro]
  exact
    { length := by
        simp [campos, hDhost, hShost, hType, hIdRodada,
          hIdDispositivo, hReply, hSaida]
      dhost :=
        Bytes.slice_flatten campos 0 (by simp [campos]) rfl
          hShost
      shost :=
        Bytes.slice_flatten campos 1 (by simp [campos])
          (by simp [campos, hShost]) hDhost
      type :=
        Bytes.slice_flatten campos 2 (by simp [campos])
          (by simp [campos, hShost, hDhost]) hType
      oper :=
        Bytes.slice_flatten campos 3 (by simp [campos])
          (by simp [campos, hShost, hDhost, hType]) rfl
      idRodada :=
        Bytes.slice_flatten campos 4 (by simp [campos])
          (by simp [campos, hShost, hDhost, hType]) hIdRodada
      idDispositivo :=
        Bytes.slice_flatten campos 5 (by simp [campos])
          (by simp [campos, hShost, hDhost, hType, hIdRodada])
          hIdDispositivo
      verificacao :=
        Bytes.slice_flatten campos 6 (by simp [campos])
          (by simp [campos, hShost, hDhost, hType, hIdRodada,
            hIdDispositivo])
          hSaida
      prova :=
        Bytes.slice_flatten campos 7 (by simp [campos])
          (by simp [campos, hShost, hDhost, hType, hIdRodada,
            hIdDispositivo, hSaida])
          hReply }

/-
  Each of the first Replies is answered with one frame, in
  order, nothing else is, and the capture ends right behind
  the last Reply that is waited for.
-/
theorem pcapLoop_respostas
    (dados : Dados)
    (totalPacotes : BitVec 32)
    (hTotal : totalPacotes ≠ 0)
    (chegadas : List Chegada)
    (hLongos : ∀ x ∈ chegadas, Longo x.packet)
    (hFilhos : FilhosImprimem dados totalPacotes 0 chegadas) :
    let fim :=
      pcapLoop dados totalPacotes estadoInicial chegadas
    fim.enviados.length =
        min totalPacotes.toNat (respostas chegadas).length ∧
      (∀ k chegada,
        (respostas chegadas)[k]? = some chegada →
        k < totalPacotes.toNat →
        ∃ quadro,
          fim.enviados[k]? = some quadro ∧
            Verificacao chegada.packet
              (saidaDoFilho dados k chegada) quadro) ∧
      ((fim.estado.interrompido = false ∧ fim.restantes = [] ∧
          (respostas chegadas).length < totalPacotes.toNat) ∨
        (fim.estado.interrompido = true ∧
          ∃ antes ultima,
            chegadas = antes ++ ultima :: fim.restantes ∧
              EhResposta ultima.packet ∧
              (respostas antes).length + 1 =
                totalPacotes.toNat)) := by
  intro fim
  have hPos : 0 < totalPacotes.toNat := by
    apply Nat.pos_of_ne_zero
    intro hZero
    exact hTotal (BitVec.eq_of_toNat_eq hZero)
  have hEnviados :=
    enviados_pcapLoop dados totalPacotes chegadas 0 hPos hLongos
      hFilhos
  have hFim := fim_pcapLoop dados totalPacotes chegadas 0 hPos
  rw [Nat.sub_zero] at hEnviados
  simp only [Nat.zero_add] at hFim
  refine ⟨?_, ?_, hFim⟩
  · exact (congrArg List.length hEnviados).trans (by simp)
  · intro k chegada hChegada hk
    have hMem : chegada ∈ respostas chegadas :=
      List.mem_of_getElem? hChegada
    rcases List.mem_filter.mp hMem with ⟨hIn, hTeste⟩
    have hResposta : EhResposta chegada.packet := by
      simpa using hTeste
    have hLength :=
      (hLongos chegada hIn).resposta hResposta.2
    have hProva := hFilhos k chegada hChegada (by omega)
    rw [Nat.zero_add] at hProva
    refine ⟨quadroDaResposta dados k chegada, ?_,
      verificacao_criaPacoteVerificacao hLength hProva⟩
    have hIndex := congrArg (fun quadros => quadros[k]?) hEnviados
    refine hIndex.trans ?_
    simp [List.getElem?_take_of_lt hk, hChegada]

/-
  A frame of 96 different bytes behind `oper`; its child
  prints the key of its command twice.
-/
def chegadaExemplo (oper primeiro : Byte) : Chegada where
  packet :=
    List.replicate 6 0x52 ++ (List.replicate 6 0x54 ++
      (etherTypeCustom ++ (oper ::
        (List.range 96).map
          (fun i => primeiro + BitVec.ofNat 8 i))))
  filho := fun linha => slice 16 64 linha ++ slice 16 64 linha
  heap := []

theorem longo_chegadaExemplo
    (oper primeiro : Byte) :
    Longo (chegadaExemplo oper primeiro).packet := by
  have hLength :
      (chegadaExemplo oper primeiro).packet.length = 111 := by
    simp [chegadaExemplo, etherTypeCustom]
  exact ⟨by omega, fun _ => by omega⟩

/- The key stands behind the name of the program. -/
theorem slice_comando
    (r : Registro)
    (param2Hex param1Hex idDispositivoHex configuracao :
      List Char) :
    slice 16 64
        (comando r.chave param2Hex param1Hex idDispositivoHex
          configuracao) =
      r.chave := by
  have hChave : precisao chaveLen r.chave = r.chave :=
    precisao_of_isHex r.hexChave r.lengthChave
  have hNome : "forro-args-dra2 ".toList.length = 16 := rfl
  rw [comando, hChave, slice, List.drop_take, List.take_take]
  simp only [List.append_assoc]
  rw [List.drop_left' hNome]
  exact List.take_left' r.lengthChave

theorem saidaDoFilho_exemplo
    {registros : List Registro}
    {k : Nat}
    (hk : k < 20000)
    {r : Registro}
    (hRegistro : registros[k]? = some r)
    (oper primeiro : Byte) :
    saidaDoFilho
        (carregarArquivoMemoria (registros.map Registro.texto))
        k (chegadaExemplo oper primeiro) =
      r.chave ++ r.chave := by
  have hChave := (row_registros hRegistro).2
  rw [saidaDoFilho, comandoDaResposta, Nat.mod_eq_of_lt hk,
    hChave]
  simp only [chegadaExemplo, slice_comando]

/-
  Two Replies with a Start between them, and a third one that
  is left: each is answered with the key of its row.
-/
theorem pcapLoop_respostas_exemplo :
    ∃ primeiro segundo,
      let fim :=
        pcapLoop
          (carregarArquivoMemoria
            ([registroExemplo, registroVizinho].map
              Registro.texto))
          2 estadoInicial
          [chegadaExemplo 0x2 1, chegadaExemplo 0x0 1,
            chegadaExemplo 0x2 97, chegadaExemplo 0x2 160]
      fim.enviados = [primeiro, segundo] ∧
        fim.estado.interrompido = true ∧
        Verificacao (chegadaExemplo 0x2 1).packet
          (registroExemplo.chave ++ registroExemplo.chave)
          primeiro ∧
        Verificacao (chegadaExemplo 0x2 97).packet
          (registroVizinho.chave ++ registroVizinho.chave)
          segundo := by
  have hRespostas :
      respostas
          [chegadaExemplo 0x2 1, chegadaExemplo 0x0 1,
            chegadaExemplo 0x2 97, chegadaExemplo 0x2 160] =
        [chegadaExemplo 0x2 1, chegadaExemplo 0x2 97,
          chegadaExemplo 0x2 160] := rfl
  have hProva :
      ∀ r : Registro, ImprimeProva (r.chave ++ r.chave) := by
    intro r
    have hLength : (r.chave ++ r.chave).length = provaLen := by
      rw [List.length_append, r.lengthChave]
      rfl
    rw [ImprimeProva, List.take_of_length_le hLength.le]
    refine ⟨?_, hLength.ge⟩
    intro c hc
    exact r.hexChave c ((List.mem_append.mp hc).elim id id)
  have hPrimeira :=
    saidaDoFilho_exemplo (by decide : 0 < 20000)
      (rfl :
        [registroExemplo, registroVizinho][0]? =
          some registroExemplo)
      0x2 1
  have hSegunda :=
    saidaDoFilho_exemplo (by decide : 1 < 20000)
      (rfl :
        [registroExemplo, registroVizinho][1]? =
          some registroVizinho)
      0x2 97
  have hFim :=
    pcapLoop_respostas
      (carregarArquivoMemoria
        ([registroExemplo, registroVizinho].map Registro.texto))
      2 (by decide)
      [chegadaExemplo 0x2 1, chegadaExemplo 0x0 1,
        chegadaExemplo 0x2 97, chegadaExemplo 0x2 160]
      (by
        intro x hx
        simp only [List.mem_cons, List.not_mem_nil,
          or_false] at hx
        rcases hx with rfl | rfl | rfl | rfl <;>
          exact longo_chegadaExemplo _ _)
      (by
        intro i x hx hi
        rw [hRespostas] at hx
        rw [Nat.zero_add] at hi ⊢
        match i, hi with
        | 0, _ =>
            rw [← Option.some.inj hx, hPrimeira]
            exact hProva registroExemplo
        | 1, _ =>
            rw [← Option.some.inj hx, hSegunda]
            exact hProva registroVizinho)
  rw [hRespostas] at hFim
  rcases hFim with ⟨hEnviados, hQuadros, hAcaba⟩
  rcases hQuadros 0 (chegadaExemplo 0x2 1) rfl (by decide) with
    ⟨primeiro, hPrimeiro, hVerificacao⟩
  rcases hQuadros 1 (chegadaExemplo 0x2 97) rfl (by decide) with
    ⟨segundo, hSegundo, hVerificacaoVizinho⟩
  rw [hPrimeira] at hVerificacao
  rw [hSegunda] at hVerificacaoVizinho
  refine
    ⟨primeiro, segundo, ?_, ?_, hVerificacao,
      hVerificacaoVizinho⟩
  · rcases List.length_eq_two.mp hEnviados with ⟨x, y, hLista⟩
    rw [hLista] at hPrimeiro hSegundo
    exact
      hLista.trans
        (congrArg₂ (fun a b => [a, b]) (Option.some.inj hPrimeiro)
          (Option.some.inj hSegundo))
  · rcases hAcaba with ⟨_, _, hPoucas⟩ | ⟨hInterrompido, _⟩
    · exact absurd hPoucas (by decide)
    · exact hInterrompido

end VerificaRede

end Tools

end P4dra
