import P4dra.Rede.Rounds
import P4dra.Tools.Addresses
import P4dra.Tools.Forwarding

/-
  Provisioning every device of a file, and asking all of them.

  The programs are run one after the other: first the Setups
  of a file, then the Starts of each round. The switch takes
  every frame once, each service captures the frame that was
  delivered last, and the switch takes its Reply.

  Main declarations:
    * `provisionar`, `perguntar`, `campanha`
    * `campanha_aceita`
-/

------------------------------------------------------------
-- Programs On The Network
------------------------------------------------------------

namespace P4dra

open Bytes (Byte swapWords)
open Tna (BfrtCall Cabecalho Frame quadroSemId)
open Tools
open Optee (Storage)
open Optee.Service (Provisionado Captura)
open Transition (exists_foldlM)

namespace Rede

/- One event, whatever its output. -/
def passo
    (calls : List BfrtCall)
    (rede : Estado Nat)
    (evento : Evento Nat) : Option (Estado Nat) :=
  (tratar calls rede evento).map Prod.fst

/-
  What the services meet, and what lies in memory from a
  captured frame on, for every device and every round.
-/
structure Ambiente where
  setup : Nat → Optee.Service.Ambiente
  pedido : Nat → Nat → Optee.Service.Ambiente
  aposSetup : Nat → Frame → Captura
  aposPedido : Nat → Nat → Frame → Captura

/- The calls of the services succeed. -/
structure Ambiente.Honesto (amb : Ambiente) : Prop where
  popenSetup : ∀ k, (amb.setup k).popen = true
  sessaoSetup :
    ∀ k, (amb.setup k).processo.sessaoAberta = true
  popen : ∀ rodada k, (amb.pedido rodada k).popen = true
  socket : ∀ rodada k, (amb.pedido rodada k).socket = true
  sendto : ∀ rodada k, (amb.pedido rodada k).sendto = true
  processo :
    ∀ rodada k, (amb.pedido rodada k).processo.Honesto
  aposSetup :
    ∀ k frame, frame <+: (amb.aposSetup k frame).packet
  aposPedido :
    ∀ rodada k frame,
      frame <+: (amb.aposPedido rodada k frame).packet

/- A Setup reaches its device, whose process writes it all. -/
def provisionar
    (calls : List BfrtCall)
    (amb : Ambiente)
    (rede : Estado Nat)
    (turno : Frame × Nat) : Option (Estado Nat) := do
  let k := turno.2
  let rede ← passo calls rede (.envio turno.1)
  let rede ← passo calls rede (.comutacao turno.1)
  let setup ← rede.entregues.getLast?
  let filho := (rede.hosts k).filhos.length
  let rede ← passo calls rede
    (.captura k setup (amb.setup k) (amb.aposSetup k setup))
  (List.replicate 3 (.gravacao k filho .sucesso)).foldlM
    (passo calls) rede

/- A Start becomes a Request, and its Reply is taken. -/
def perguntar
    (calls : List BfrtCall)
    (amb : Ambiente)
    (rodada : Nat)
    (rede : Estado Nat)
    (turno : Frame × Nat) : Option (Estado Nat) := do
  let k := turno.2
  let rede ← passo calls rede (.envio turno.1)
  let rede ← passo calls rede (.comutacao turno.1)
  let pedido ← rede.entregues.getLast?
  let rede ← passo calls rede
    (.captura k pedido (amb.pedido rodada k)
      (amb.aposPedido rodada k pedido))
  let reply ← rede.enviados.getLast?
  passo calls rede (.comutacao reply)

/- All the Setups, and then the Starts of each round. -/
def campanha
    (calls : List BfrtCall)
    (amb : Ambiente)
    (setups : List Frame)
    (rodadas : List (List Frame))
    (rede : Estado Nat) : Option (Estado Nat) := do
  let rede ← setups.zipIdx.foldlM (provisionar calls amb) rede
  rodadas.zipIdx.foldlM
    (fun rede rodada =>
      rodada.1.zipIdx.foldlM (perguntar calls amb rodada.2) rede)
    rede

------------------------------------------------------------
-- Frames Of The Programs
------------------------------------------------------------

/- The header fields for a device and the bytes of a round. -/
def cabecalhoDe
    (idRodada : List Byte)
    (k : Nat) : Cabecalho :=
  let words :=
    (Tna.word.pair (Tna.word.pair (Tna.word.pair Tna.word)))
  let w := words.decode idRodada
  { dstAddr := (Codec.bits 6).decode (endereco k)
    srcAddr := (Codec.bits 6).decode macControlador
    idRodada0 := w.1
    idRodada1 := w.2.1
    idRodada2 := w.2.2.1
    idRodada3 := w.2.2.2
    idDispositivo := 0 }

/- The fields of the Start for a round in digits. -/
def startDe
    (idRodada : List Char)
    (k : Nat) : Cabecalho :=
  cabecalhoDe (swapWords (Hex.decode idRodada)) k

theorem quadroSemId_cabecalhoDe
    {idRodada : List Byte}
    (hLength : idRodada.length = 16)
    (k : Nat)
    (oper : BitVec 8)
    (corpo : List Byte) :
    quadroSemId (cabecalhoDe idRodada k) oper corpo =
      pacoteDe (endereco k) macControlador
        ([oper] ++ (idRodada ++ corpo)) := by
  have hDst :
      mac (cabecalhoDe idRodada k).dstAddr = endereco k :=
    (Codec.bits 6).encode_decode (endereco k) rfl
  have hSrc :
      mac (cabecalhoDe idRodada k).srcAddr = macControlador :=
    (Codec.bits 6).encode_decode macControlador rfl
  have hRodada :
      (cabecalhoDe idRodada k).bytesIdRodada = idRodada :=
    (Tna.word.pair
      (Tna.word.pair (Tna.word.pair Tna.word))).encode_decode
        idRodada hLength
  rw [quadroSemId_eq, hDst, hSrc, hRodada, pacoteDe]

/- The Starts of a round in digits, by device. -/
theorem main_startDe
    {idRodada : List Char}
    (hHex : Hex.IsHex idRodada)
    (hLength : idRodada.length = 32)
    (apos : List Char)
    {quantidade : Nat}
    (hMax : quantidade ≤ EnviaPedidos.idMax) :
    EnviaPedidos.main (idRodada ++ apos) quantidade =
      some
        ((List.range quantidade).map
          (fun k =>
            quadroSemId (startDe idRodada k) 0x0 [])) := by
  have hTexto :
      rodadaDoArgumento (idRodada ++ apos) =
        swapWords (Hex.decode idRodada) := by
    rw [rodadaDoArgumento, idRodadaLen,
      swapEndian_append apos hLength,
      bytesDeDigitos_of_isHex (Hex.isHex_swapDigits hHex)
        (by rw [Hex.length_swapDigits, hLength]) apos,
      Hex.decode_swapDigits 4 _ (by omega)]
  have hBytes :
      (swapWords (Hex.decode idRodada)).length = 16 := by
    rw [Bytes.length_swapWords, Hex.length_decode, hLength]
  rw [(main_pedidos (idRodada ++ apos) quantidade).1,
    Nat.min_eq_left hMax, hTexto]
  refine congrArg some (List.map_congr_left ?_)
  intro k _
  rw [startDe, quadroSemId_cabecalhoDe hBytes,
    destMac_pedidos, List.append_nil]
  rfl

/- The Setup of a turn is a frame of the operation 0x5. -/
theorem pedido_quadroSetup
    (dados : Dados)
    (k : Nat) :
    Tna.pedido (EnviaSetupHostArquivo.quadroSetup dados k) =
      some
        (.repassar 0
          (EnviaSetupHostArquivo.quadroSetup dados k)) := by
  have hSemId : ¬ Tna.ComId 0x5 := by
    unfold Tna.ComId
    decide
  have hLength : (List.replicate 16 (0 : Byte)).length = 16 :=
    List.length_replicate
  have hFrame :=
    quadroSemId_cabecalhoDe hLength k 0x5
      (bytesDeDigitos 32
          (swapEndian (dados.row k).chave.toList chaveLen) ++
        bytesDeDigitos 16
          (swapEndian (dados.row k).idDispositivo.toList
            idDispositivoLen))
  have hSetup :
      EnviaSetupHostArquivo.quadroSetup dados k =
        quadroSemId (cabecalhoDe (List.replicate 16 0) k) 0x5
          (bytesDeDigitos 32
              (swapEndian (dados.row k).chave.toList chaveLen) ++
            bytesDeDigitos 16
              (swapEndian (dados.row k).idDispositivo.toList
                idDispositivoLen)) := by
    rw [hFrame, EnviaSetupHostArquivo.quadroSetup,
      destMac_setup, EnviaSetupHostArquivo.cabecalho]
  rw [hSetup, Tna.pedido_semId _ _ hSemId]
  rfl

------------------------------------------------------------
-- Turns
------------------------------------------------------------

theorem passo_of_tratar
    {calls : List BfrtCall}
    {rede rede' : Estado Nat}
    {evento : Evento Nat}
    {saida : Saida}
    (hTratar : tratar calls rede evento = some (rede', saida)) :
    passo calls rede evento = some rede' := by
  rw [passo, hTratar]
  rfl

/- What the switch forwards is what was delivered last. -/
theorem passos_repassar
    {registros : List Registro}
    (hArquivo : ArquivoValido registros)
    {frame saida : Frame}
    {port : BitVec 9}
    (hPedido :
      Tna.pedido frame = some (.repassar port saida))
    (rede : Estado Nat) :
    ∃ rede',
      (passo (switch registros) rede (.envio frame) >>=
          fun rede =>
            passo (switch registros) rede
              (.comutacao frame)) =
        some rede' ∧
        rede'.hosts = rede.hosts ∧
        rede'.controlador = rede.controlador ∧
        rede'.entregues = rede.entregues ++ [saida] := by
  let enviado : Estado Nat :=
    { rede with enviados := rede.enviados ++ [frame] }
  have hMem : frame ∈ enviado.enviados :=
    List.mem_append_right _ (List.mem_singleton_self _)
  have hComutacao :=
    passo_of_tratar (tratar_repassar hArquivo hMem hPedido)
  exact ⟨_, hComutacao, rfl, rfl, rfl⟩

/- The writes of a process are its service's own. -/
theorem passos_gravacoes
    {calls : List BfrtCall}
    {k filho : Nat}
    {last : Optee.Service.Estado}
    (n : Nat) :
    ∀ {history : List Optee.Service.Evento}
        {rede : Estado Nat}
        {steps :
          List
            (Transition.Step Optee.Service.Estado
              Optee.Service.Evento Optee.Service.Saida)},
      Transition.execFrom Optee.Service.tratar history
          (rede.hosts k)
          (List.replicate n (.gravacao filho .sucesso)) =
        some (last, steps) →
      ∃ rede',
        (List.replicate n (.gravacao k filho .sucesso)).foldlM
            (passo calls) rede =
          some rede' ∧
          rede'.hosts = Function.update rede.hosts k last ∧
          rede'.controlador = rede.controlador := by
  induction n with
  | zero =>
      intro history rede steps hRun
      cases hRun
      exact
        ⟨rede, rfl, (Function.update_eq_self k rede.hosts).symm,
          rfl⟩
  | succ n ih =>
      intro history rede steps hRun
      rw [List.replicate_succ] at hRun
      rcases Transition.execFrom_cons_eq_some hRun with
        ⟨host, saida, later, hOne, hLater, _⟩
      let rede₁ := rede.avancar k host saida
      have hGravacao :
          tratar calls rede (.gravacao k filho .sucesso) =
            some (rede₁, .host saida) := by
        rw [tratar, hOne]
        rfl
      have hHost : rede₁.hosts k = host := by
        rw [hosts_avancar, Function.update_self]
      rw [← hHost] at hLater
      rcases ih hLater with
        ⟨rede', hRest, hHosts, hControlador⟩
      refine ⟨rede', ?_, ?_, hControlador⟩
      · rw [List.replicate_succ, List.foldlM_cons,
          passo_of_tratar hGravacao]
        exact hRest
      · rw [hHosts, hosts_avancar, Function.update_idem]

/- A Setup of the file provisions the device of its turn. -/
theorem provisionar_registro
    {registros : List Registro}
    (hArquivo : ArquivoValido registros)
    {amb : Ambiente}
    (hAmb : amb.Honesto)
    {k : Nat}
    {r : Registro}
    (hRegistro : registros[k]? = some r)
    {rede : Estado Nat}
    (hAtivo : (rede.hosts k).ativo = true) :
    ∃ rede',
      provisionar (switch registros) amb rede
          (EnviaSetupHostArquivo.quadroSetup
            (carregarArquivoMemoria
              (registros.map Registro.texto)) k, k) =
        some rede' ∧
        Provisionado (rede'.hosts k) r ∧
        (∀ j, j ≠ k → rede'.hosts j = rede.hosts j) ∧
        rede'.controlador = rede.controlador := by
  let setup :=
    EnviaSetupHostArquivo.quadroSetup
      (carregarArquivoMemoria (registros.map Registro.texto)) k
  rcases passos_repassar hArquivo (pedido_quadroSetup _ k) rede
    with ⟨rede₁, hPassos, hHosts₁, hControlador₁, hEntregues₁⟩
  have hLast : rede₁.entregues.getLast? = some setup := by
    rw [hEntregues₁]
    exact List.getLast?_concat
  have hMem : setup ∈ rede₁.entregues :=
    List.mem_of_getLast? hLast
  have hPrefix := hAmb.aposSetup k setup
  rcases hPrefix with ⟨resto, hCaptura⟩
  rw [← hHosts₁] at hAtivo
  rcases Optee.Service.provisionado_of_quadroSetup hRegistro
      hCaptura.symm hAtivo (hAmb.popenSetup k)
      (hAmb.sessaoSetup k) with
    ⟨last, steps, hRun, hProvisionado⟩
  rcases Transition.execFrom_cons_eq_some hRun with
    ⟨host, saida, later, hOne, hLater, _⟩
  let rede₂ := rede₁.avancar k host saida
  have hSetup :
      passo (switch registros) rede₁
          (.captura k setup (amb.setup k)
            (amb.aposSetup k setup)) =
        some rede₂ := by
    refine
      @passo_of_tratar _ _ _ _ (.host saida) ?_
    rw [tratar, if_pos ⟨hMem, hAmb.aposSetup k setup⟩, hOne]
    rfl
  have hHost : rede₂.hosts k = host := by
    rw [hosts_avancar, Function.update_self]
  rw [← hHost] at hLater
  rcases @passos_gravacoes (switch registros) _ _ _ 3 _ _ _
      hLater with
    ⟨rede', hGravacoes, hHosts', hControlador'⟩
  refine ⟨rede', ?_, ?_, ?_, ?_⟩
  · unfold provisionar
    dsimp only
    rw [← bind_assoc, hPassos]
    simp only [Option.bind_eq_bind, Option.bind_some]
    rw [hLast]
    simp only [Option.bind_some]
    rw [hSetup]
    exact hGravacoes
  · rw [hHosts', Function.update_self]
    exact hProvisionado
  · intro j hj
    rw [hHosts', Function.update_of_ne hj, hosts_avancar,
      Function.update_of_ne hj, hHosts₁]
  · rw [hControlador', ← hControlador₁]
    rfl

/- The Start of a device is answered and accepted. -/
theorem perguntar_provisionado
    {registros : List Registro}
    (hArquivo : ArquivoValido registros)
    {amb : Ambiente}
    (hAmb : amb.Honesto)
    {k : Nat}
    {r : Registro}
    (hRegistro : r ∈ registros)
    {rede : Estado Nat}
    (hProvisionado : Provisionado (rede.hosts k) r)
    (rodada : Nat)
    (c : Cabecalho) :
    ∃ rede',
      perguntar (switch registros) amb rodada rede
          (quadroSemId c 0x0 [], k) =
        some rede' ∧
        rede'.hosts = rede.hosts ∧
        rede'.controlador =
          rede.controlador ++ [aceitacaoDe c r] := by
  let pedido := quadroSemId c 0x1 []
  rcases passos_repassar hArquivo (pedido_start c) rede with
    ⟨rede₁, hPassos, hHosts₁, hControlador₁, hEntregues₁⟩
  have hLast : rede₁.entregues.getLast? = some pedido := by
    rw [hEntregues₁]
    exact List.getLast?_concat
  have hMem : pedido ∈ rede₁.entregues :=
    List.mem_of_getLast? hLast
  have hPrefix := hAmb.aposPedido rodada k pedido
  rcases hPrefix with ⟨resto, hCaptura⟩
  rw [Optee.Service.quadroSemId_append] at hCaptura
  rw [← hHosts₁] at hProvisionado
  let rede₂ :=
    rede₁.avancar k (rede₁.hosts k)
      ⟨some (Optee.Service.respostaEsperada c r),
        some (replyDe c r)⟩
  have hPedido :
      passo (switch registros) rede₁
          (.captura k pedido (amb.pedido rodada k)
            (amb.aposPedido rodada k pedido)) =
        some rede₂ :=
    passo_of_tratar
      (tratar_pedido hProvisionado (hAmb.popen rodada k)
        (hAmb.socket rodada k) (hAmb.sendto rodada k)
        (hAmb.processo rodada k) hMem
        (hAmb.aposPedido rodada k pedido) hCaptura.symm)
  have hReply : rede₂.enviados.getLast? = some (replyDe c r) :=
    List.getLast?_concat
  have hHosts₂ : rede₂.hosts = rede.hosts := by
    rw [hosts_avancar, Function.update_eq_self, hHosts₁]
  have hComutacao :=
    passo_of_tratar
      (tratar_reply hArquivo hRegistro c
        (List.mem_of_getLast? hReply))
  let rede₃ : Estado Nat :=
    { rede₂ with
      controlador := rede₂.controlador ++ [aceitacaoDe c r] }
  refine ⟨rede₃, ?_, hHosts₂, ?_⟩
  · unfold perguntar
    dsimp only
    rw [← bind_assoc, hPassos]
    simp only [Option.bind_eq_bind, Option.bind_some]
    rw [hLast]
    simp only [Option.bind_some]
    rw [hPedido]
    simp only [Option.bind_some]
    rw [hReply]
    exact hComutacao
  · rw [← hControlador₁]
    rfl

------------------------------------------------------------
-- Loops Of The Programs
------------------------------------------------------------

/- The element of a turn, and its place. -/
theorem getElem?_of_zipIdx
    {α : Type}
    {xs : List α}
    {before after : List (α × Nat)}
    {turno : α × Nat}
    (hSplit : xs.zipIdx = before ++ turno :: after) :
    turno.2 = before.length ∧
      xs[before.length]? = some turno.1 := by
  have hTurno : xs.zipIdx[before.length]? = some turno := by
    rw [hSplit, List.getElem?_append_right (Nat.le_refl _),
      Nat.sub_self]
    rfl
  rw [List.getElem?_zipIdx] at hTurno
  rcases Option.map_eq_some_iff.mp hTurno with ⟨x, hx, hSame⟩
  rw [← hSame]
  exact ⟨Nat.zero_add _, hx⟩

/- What the controller gets in a round, by device. -/
def aceitacoes
    (registros : List Registro)
    (idRodada : List Char) : List Frame :=
  registros.zipIdx.map
    (fun turno =>
      aceitacaoDe (startDe idRodada turno.2) turno.1)

/- All the devices of the first turns are provisioned. -/
theorem exists_provisionados
    {registros : List Registro}
    (hArquivo : ArquivoValido registros)
    {amb : Ambiente}
    (hAmb : amb.Honesto)
    {quantidade : Nat}
    (hQuantidade : quantidade ≤ registros.length)
    {setups : List Frame}
    (hSetups :
      EnviaSetupHostArquivo.main
          (carregarArquivoMemoria
            (registros.map Registro.texto)) quantidade =
        some setups)
    (storage : Nat → Storage) :
    ∃ rede,
      setups.zipIdx.foldlM (provisionar (switch registros) amb)
          (estadoInicial storage) =
        some rede ∧
        rede.controlador = [] ∧
        ∀ k r, k < setups.length → registros[k]? = some r →
          Provisionado (rede.hosts k) r := by
  let Turnos :=
    fun (done : List (Frame × Nat)) (rede : Estado Nat) =>
      rede.controlador = [] ∧
        (∀ k r, k < done.length → registros[k]? = some r →
          Provisionado (rede.hosts k) r) ∧
        ∀ k, done.length ≤ k →
          rede.hosts k =
            Optee.Service.estadoInicial (storage k)
  have hTurno :
      ∀ before turno after rede,
        setups.zipIdx = before ++ turno :: after →
          Turnos before rede →
          ∃ rede',
            provisionar (switch registros) amb rede turno =
                some rede' ∧
              Turnos (before ++ [turno]) rede' := by
    intro before turno after rede hSplit hBefore
    rcases hBefore with ⟨hControlador, hProntos, hNovos⟩
    rcases getElem?_of_zipIdx hSplit with ⟨hIndex, hFrame⟩
    have hQuadro :=
      EnviaSetupHostArquivo.quadroSetup_of_main hSetups hFrame
    have hCount : before.length < setups.length :=
      (List.getElem?_eq_some_iff.mp hFrame).1
    have hLength : setups.length ≤ quantidade := by
      rw [EnviaSetupHostArquivo.main_eq] at hSetups
      rw [← Option.some.inj hSetups, List.length_map,
        List.length_range]
      exact Nat.min_le_left _ _
    have hPlace : before.length < registros.length := by omega
    have hRegistro :
        registros[before.length]? =
          some (registros[before.length]) :=
      List.getElem?_eq_getElem hPlace
    have hAtivo :
        (rede.hosts before.length).ativo = true := by
      rw [hNovos before.length (Nat.le_refl _)]
      rfl
    rcases provisionar_registro hArquivo hAmb hRegistro hAtivo
      with ⟨rede', hRun, hPronto, hOutros, hControlador'⟩
    have hTurno :
        turno =
          (EnviaSetupHostArquivo.quadroSetup
            (carregarArquivoMemoria
              (registros.map Registro.texto)) before.length,
            before.length) :=
      Prod.ext hQuadro hIndex
    rw [hTurno]
    refine
      ⟨rede', hRun, hControlador'.trans hControlador, ?_, ?_⟩
    · intro k r hk hr
      rw [List.length_append, List.length_singleton] at hk
      by_cases hLast : k = before.length
      · subst hLast
        rw [hRegistro] at hr
        rw [← Option.some.inj hr]
        exact hPronto
      · rw [hOutros k hLast]
        exact hProntos k r (by omega) hr
    · intro k hk
      rw [List.length_append, List.length_singleton] at hk
      rw [hOutros k (by omega)]
      exact hNovos k (by omega)
  have hInit : Turnos [] (estadoInicial storage) :=
    ⟨rfl, fun k r hk _ => absurd hk (Nat.not_lt_zero k),
      fun _ _ => rfl⟩
  rcases exists_foldlM hTurno hInit with
    ⟨rede, hRun, hControlador, hProntos, _⟩
  rw [List.length_zipIdx] at hProntos
  exact ⟨rede, hRun, hControlador, hProntos⟩

/- A round asks every provisioned device once. -/
theorem exists_rodada
    {registros : List Registro}
    (hArquivo : ArquivoValido registros)
    {amb : Ambiente}
    (hAmb : amb.Honesto)
    {quantidade : Nat}
    (hQuantidade : quantidade ≤ registros.length)
    (hMax : quantidade ≤ EnviaPedidos.idMax)
    {idRodada apos : List Char}
    (hHex : Hex.IsHex idRodada)
    (hLength : idRodada.length = 32)
    {starts : List Frame}
    (hStarts :
      EnviaPedidos.main (idRodada ++ apos) quantidade =
        some starts)
    {rede : Estado Nat}
    (hProntos :
      ∀ k r, k < quantidade → registros[k]? = some r →
        Provisionado (rede.hosts k) r)
    (rodada : Nat) :
    ∃ rede',
      starts.zipIdx.foldlM
          (perguntar (switch registros) amb rodada) rede =
        some rede' ∧
        rede'.hosts = rede.hosts ∧
        rede'.controlador =
          rede.controlador ++
            aceitacoes (registros.take quantidade) idRodada := by
  let prefixo := registros.take quantidade
  let Turnos :=
    fun (done : List (Frame × Nat)) (atual : Estado Nat) =>
      atual.hosts = rede.hosts ∧
        atual.controlador =
          rede.controlador ++
            (aceitacoes prefixo idRodada).take done.length
  rw [main_startDe hHex hLength apos hMax] at hStarts
  have hCount : starts.length = quantidade := by
    rw [← Option.some.inj hStarts, List.length_map,
      List.length_range]
  have hTurno :
      ∀ before turno after atual,
        starts.zipIdx = before ++ turno :: after →
          Turnos before atual →
          ∃ proxima,
            perguntar (switch registros) amb rodada atual turno =
                some proxima ∧
              Turnos (before ++ [turno]) proxima := by
    intro before turno after atual hSplit hBefore
    rcases hBefore with ⟨hHosts, hControlador⟩
    rcases getElem?_of_zipIdx hSplit with ⟨hIndex, hFrame⟩
    rw [← Option.some.inj hStarts] at hFrame
    rcases getElem?_turnos.mp hFrame with ⟨hPlace, hStart⟩
    have hRegistro :
        registros[before.length]? =
          some (registros[before.length]) :=
      List.getElem?_eq_getElem (by omega)
    have hMem : registros[before.length] ∈ registros :=
      List.getElem_mem _
    have hProvisionado :=
      hProntos before.length _ hPlace hRegistro
    rw [← hHosts] at hProvisionado
    rcases perguntar_provisionado hArquivo hAmb hMem
        hProvisionado rodada (startDe idRodada before.length)
      with ⟨proxima, hRun, hHosts', hControlador'⟩
    have hTurno :
        turno =
          (quadroSemId (startDe idRodada before.length) 0x0 [],
            before.length) :=
      Prod.ext hStart.symm hIndex
    have hAceita :
        (aceitacoes prefixo idRodada)[before.length]? =
          some
            (aceitacaoDe (startDe idRodada before.length)
              (registros[before.length])) := by
      rw [aceitacoes, List.getElem?_map, List.getElem?_zipIdx,
        List.getElem?_take_of_lt hPlace, hRegistro,
        Option.map_some, Option.map_some, Nat.zero_add]
    rw [hTurno]
    refine ⟨proxima, hRun, hHosts'.trans hHosts, ?_⟩
    rw [hControlador', hControlador, List.length_append,
      List.length_singleton, List.take_add_one, hAceita,
      List.append_assoc]
    rfl
  have hInit : Turnos [] rede :=
    ⟨rfl, (List.append_nil _).symm⟩
  rcases exists_foldlM hTurno hInit with
    ⟨last, hRun, hHosts, hControlador⟩
  refine ⟨last, hRun, hHosts, ?_⟩
  have hAll :
      (aceitacoes prefixo idRodada).length ≤
        starts.zipIdx.length := by
    rw [aceitacoes, List.length_map, List.length_zipIdx,
      List.length_zipIdx, List.length_take, hCount]
    exact Nat.min_le_left _ _
  rw [hControlador, List.take_of_length_le hAll]

/-
  The Starts of the rounds: one run of `envia_pedidos` for
  each round in digits, with what follows its argument.
-/
def Rodadas
    (quantidade : Nat)
    (idsRodada : List (List Char))
    (rodadas : List (List Frame)) : Prop :=
  List.Forall₂
    (fun idRodada starts =>
      Hex.IsHex idRodada ∧ idRodada.length = 32 ∧
        ∃ apos,
          EnviaPedidos.main (idRodada ++ apos) quantidade =
            some starts)
    idsRodada rodadas

/-
  The programs provision the devices of a file and ask all of
  them in every round: the controller gets the acceptance of
  each device once a round, in the order of the file, and
  nothing else.
-/
theorem campanha_aceita
    {registros : List Registro}
    (hArquivo : ArquivoValido registros)
    {amb : Ambiente}
    (hAmb : amb.Honesto)
    {quantidade : Nat}
    (hQuantidade : quantidade ≤ registros.length)
    (hMax : quantidade ≤ EnviaPedidos.idMax)
    {setups : List Frame}
    (hSetups :
      EnviaSetupHostArquivo.main
          (carregarArquivoMemoria
            (registros.map Registro.texto)) quantidade =
        some setups)
    {idsRodada : List (List Char)}
    {rodadas : List (List Frame)}
    (hRodadas : Rodadas quantidade idsRodada rodadas)
    (storage : Nat → Storage) :
    ∃ rede,
      campanha (switch registros) amb setups rodadas
          (estadoInicial storage) =
        some rede ∧
        rede.controlador =
          idsRodada.flatMap
            (aceitacoes (registros.take quantidade)) ∧
        ∀ k r, k < quantidade → registros[k]? = some r →
          Provisionado (rede.hosts k) r := by
  rcases exists_provisionados hArquivo hAmb hQuantidade hSetups
      storage with
    ⟨inicial, hInicial, hVazio, hProntos⟩
  have hCount : setups.length = quantidade := by
    rw [EnviaSetupHostArquivo.main_eq] at hSetups
    rw [← Option.some.inj hSetups, List.length_map,
      List.length_range]
    exact Nat.min_eq_left hMax
  rw [hCount] at hProntos
  let Turnos :=
    fun (done : List (List Frame × Nat)) (atual : Estado Nat) =>
      atual.hosts = inicial.hosts ∧
        atual.controlador =
          (idsRodada.take done.length).flatMap
            (aceitacoes (registros.take quantidade))
  have hTurno :
      ∀ before turno after atual,
        rodadas.zipIdx = before ++ turno :: after →
          Turnos before atual →
          ∃ proxima,
            turno.1.zipIdx.foldlM
                (perguntar (switch registros) amb turno.2)
                atual =
              some proxima ∧
              Turnos (before ++ [turno]) proxima := by
    intro before turno after atual hSplit hBefore
    rcases hBefore with ⟨hHosts, hControlador⟩
    rcases getElem?_of_zipIdx hSplit with ⟨_, hStarts⟩
    rcases List.getElem?_eq_some_iff.mp hStarts with
      ⟨hPlace, hRodada⟩
    have hPlaceId : before.length < idsRodada.length := by
      rw [hRodadas.length_eq]
      exact hPlace
    have hEach := hRodadas.get hPlaceId hPlace
    rw [List.get_eq_getElem, List.get_eq_getElem, hRodada]
      at hEach
    rcases hEach with ⟨hHex, hLength, apos, hMain⟩
    have hAtual :
        ∀ k r, k < quantidade → registros[k]? = some r →
          Provisionado (atual.hosts k) r := by
      rw [hHosts]
      exact hProntos
    rcases exists_rodada hArquivo hAmb hQuantidade hMax hHex
        hLength hMain hAtual turno.2 with
      ⟨proxima, hRun, hHosts', hControlador'⟩
    refine ⟨proxima, hRun, hHosts'.trans hHosts, ?_⟩
    rw [hControlador', hControlador, List.length_append,
      List.length_singleton,
      List.take_succ_eq_append_getElem hPlaceId,
      List.flatMap_append, List.flatMap_singleton]
  have hInit : Turnos [] inicial := ⟨rfl, hVazio⟩
  rcases exists_foldlM hTurno hInit with
    ⟨rede, hRun, hHosts, hControlador⟩
  refine ⟨rede, ?_, ?_, ?_⟩
  · unfold campanha
    rw [hInicial]
    exact hRun
  · rw [hControlador, List.length_zipIdx, ← hRodadas.length_eq,
      List.take_length]
  · rw [hHosts]
    exact hProntos

/- Memory that is zero behind every frame. -/
def ambienteExemplo : Ambiente where
  setup := fun _ => Optee.Service.ambienteZero
  pedido := fun _ _ => Optee.Service.ambienteZero
  aposSetup := fun _ frame =>
    { packet := frame ++ List.replicate 79 0
      length := by
        rw [List.length_append, List.length_replicate]
        omega }
  aposPedido := fun _ _ frame =>
    { packet := frame ++ List.replicate 79 0
      length := by
        rw [List.length_append, List.length_replicate]
        omega }

theorem honesto_ambienteExemplo : ambienteExemplo.Honesto where
  popenSetup := fun _ => rfl
  sessaoSetup :=
    fun _ => Optee.Service.honesto_processoZero.sessao
  popen := fun _ _ => rfl
  socket := fun _ _ => rfl
  sendto := fun _ _ => rfl
  processo := fun _ _ => Optee.Service.honesto_processoZero
  aposSetup := fun _ _ => ⟨_, rfl⟩
  aposPedido := fun _ _ _ => ⟨_, rfl⟩

/- The sample device in two rounds with equal identifiers. -/
theorem campanha_aceita_exemplo :
    ∃ setups rodadas rede,
      campanha (switch [registroExemplo]) ambienteExemplo setups
          rodadas (estadoInicial fun _ => .empty) =
        some rede ∧
        rede.controlador =
          [aceitacaoDe
              (startDe Optee.Service.idRodadaExemplo 0)
              registroExemplo,
            aceitacaoDe
              (startDe Optee.Service.idRodadaExemplo 0)
              registroExemplo] := by
  let idRodada := Optee.Service.idRodadaExemplo
  have hHex : Hex.IsHex idRodada := by decide
  have hOne : 1 ≤ EnviaPedidos.idMax := by decide
  have hMain := main_startDe hHex rfl ['\x00'] hOne
  have hRodadas : Rodadas 1 [idRodada, idRodada] _ :=
    .cons ⟨hHex, rfl, ['\x00'], hMain⟩
      (.cons ⟨hHex, rfl, ['\x00'], hMain⟩ .nil)
  rcases campanha_aceita arquivoValido_exemplo
      honesto_ambienteExemplo (Nat.le_refl 1) hOne
      (EnviaSetupHostArquivo.main_eq _ 1) hRodadas
      (fun _ => .empty) with
    ⟨rede, hRun, hControlador, _⟩
  exact ⟨_, _, rede, hRun, hControlador⟩

end Rede

end P4dra
