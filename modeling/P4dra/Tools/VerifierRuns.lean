import P4dra.Forro.Bijection
import P4dra.Library.Transition
import P4dra.Tna.Soundness
import P4dra.Tools.ConfigurationBinding

/-
  Runs of `verifica_p4dra_rede` over many Replies.

  The handler takes the key of the row that its packet counter
  names, whatever device the Reply is from. A Reply is checked
  with the key of its own device when that row has this key.

  Main declarations:
    * `VerificaRede.tratar`, `VerificaRede.Verificado`
    * `VerificaRede.tratar_resposta`
    * `VerificaRede.verificado_of_row`
    * `VerificaRede.row_of_verificado`
-/

------------------------------------------------------------
-- Steps
------------------------------------------------------------

namespace P4dra

open Bytes (Byte slice swapWords)
open Tna (Cabecalho Frame quadroResposta quadroCifra)
open Transition (Step exec)

namespace Tools

namespace VerificaRede

/-
  A captured frame, with the memory of the child process that
  is started for it and the heap of the handler.
-/
structure Captura where
  packet : Frame
  memoria : ForroArgsDra.Memoria
  heap : List Char

/- The globals when the capture starts. -/
def estadoInicial : Estado where
  contadorPacotes := 0
  interrompido := false

/- One turn of `pcap_loop`. -/
def tratar
    (dados : Dados)
    (totalPacotes : BitVec 32)
    (estado : Estado)
    (captura : Captura) : Option (Estado × Option Frame) :=
  if estado.interrompido then
    none
  else
    some
      (packetHandler dados totalPacotes captura.memoria
        captura.heap estado captura.packet)

------------------------------------------------------------
-- A Reply
------------------------------------------------------------

/-
  The argument `0` converts no byte: the configuration is what
  the array holds.
-/
theorem configuracao_zero
    (memoria : ForroArgsDra.Memoria)
    {palavras : List (List Char)}
    (hArgv5 : palavras[5]? = some ['0']) :
    ∃ argv5,
      argv palavras memoria.ambiente 5 = some argv5 ∧
        hexstringToByteArrayStrlen memoria.configuracao
            (memcpy argv5 64 ++ memoria.aposConfiguracao) =
          some memoria.configuracao := by
  rcases argv_eq_some memoria.ambiente hArgv5 with
    ⟨resto, hArgv⟩
  refine ⟨_, hArgv, ?_⟩
  have hLen : ∀ texto : List Char,
      Hex.strlen ('0' :: '\x00' :: texto) / 2 = 0 := by
    intro texto
    simp [Hex.strlen]
  have hCopy :
      memcpy (['0'] ++ '\x00' :: resto) 64 ++
          memoria.aposConfiguracao =
        '0' :: '\x00' ::
          (resto.take 62 ++ memoria.aposConfiguracao) := rfl
  rw [hCopy, hexstringToByteArrayStrlen, hexstringToByteArray,
    hLen, if_pos (Nat.zero_le 32)]
  apply congrArg some
  apply Vector.ext
  intro i hi
  rw [Vector.getElem_ofFn, if_neg (Nat.not_lt_zero i)]
  rfl

/- The proof that is sent for a key. -/
def verificacaoDe
    (memoria : ForroArgsDra.Memoria)
    (chave : List Byte)
    (c : Cabecalho) : State :=
  Forro.forroWords
    (Tna.estadoForro chave
      (Tna.configuracaoDaMedida memoria.configuracao.toList) c)

/- The frame for a Reply and the key of a record. -/
theorem pacoteVerificacao_registro
    {memoria : ForroArgsDra.Memoria}
    (hMemoria : memoria.Limpa)
    (heap : List Char)
    (c : Cabecalho)
    (payload : State)
    (rest : List Byte)
    (r : Registro) :
    pacoteVerificacao memoria heap
        (quadroResposta c payload rest) r.chave ['0'] =
      some
        (quadroCifra (trocado c)
          (verificacaoDe memoria r.bytesChave c) payload []) := by
  have hPalavra :
      (palavrasVerificacao r.chave ['0'] c)[5]? = some ['0'] :=
    rfl
  rcases configuracao_zero memoria hPalavra with
    ⟨argv5, hArgv5, hLida⟩
  have hMain :=
    ForroArgsDra.main_eq hMemoria
      (argumentos_palavrasVerificacao r.hexChave r.lengthChave
        ['0'] c) hArgv5 hLida
  rw [estadoProva_palavrasVerificacao _ _
    (by rw [Vector.length_toList])] at hMain
  exact pacoteVerificacao_resposta heap c payload _ rest
    r.hexChave r.lengthChave (by decide) (by decide)
    (by decide) hMain

/- The row that the counter names, for a file of records. -/
def rowDoContador
    (registros : List Registro)
    (estado : Estado) : Option Registro :=
  registros[estado.contadorPacotes.toNat % 20000]?

/- A Reply is counted, and checked with the key of the row. -/
theorem tratar_quadroResposta
    (dados : Dados)
    (totalPacotes : BitVec 32)
    {estado : Estado}
    (hEstado : estado.interrompido = false)
    {captura : Captura}
    {c : Cabecalho}
    {payload : State}
    {rest : List Byte}
    (hPacket : captura.packet = quadroResposta c payload rest) :
    tratar dados totalPacotes estado captura =
      some
        ({ contadorPacotes := estado.contadorPacotes + 1
           interrompido :=
            decide (estado.contadorPacotes + 1 = totalPacotes) },
          pacoteVerificacao captura.memoria captura.heap
            (quadroResposta c payload rest)
            (buscarPorIdDireto dados estado.contadorPacotes)
            ['0']) := by
  have hType : etherType captura.packet = etherTypeCustom := by
    rw [hPacket, quadroResposta_eq, etherType_quadroSemId]
  have hOper : operHdrOper captura.packet = [0x2] := by
    rw [hPacket, quadroResposta_eq, operHdrOper_quadroSemId]
  rw [tratar, hEstado, if_neg Bool.false_ne_true, packetHandler,
    if_pos ⟨hType, hOper⟩, hPacket, hEstado]
  simp only [Bool.false_or]

/- For a file of records the frame has the proof of the row. -/
theorem tratar_resposta
    {registros : List Registro}
    (totalPacotes : BitVec 32)
    {estado : Estado}
    (hEstado : estado.interrompido = false)
    {captura : Captura}
    (hMemoria : captura.memoria.Limpa)
    {s : Registro}
    (hRow : rowDoContador registros estado = some s)
    {c : Cabecalho}
    {payload : State}
    {rest : List Byte}
    (hPacket : captura.packet = quadroResposta c payload rest) :
    tratar
        (carregarArquivoMemoria (registros.map Registro.texto))
        totalPacotes estado captura =
      some
        ({ contadorPacotes := estado.contadorPacotes + 1
           interrompido :=
            decide (estado.contadorPacotes + 1 = totalPacotes) },
          some
            (quadroCifra (trocado c)
              (verificacaoDe captura.memoria s.bytesChave c)
              payload [])) := by
  have hChave :
      buscarPorIdDireto
          (carregarArquivoMemoria
            (registros.map Registro.texto))
          estado.contadorPacotes =
        s.chave :=
    (row_registros hRow).2
  rw [tratar_quadroResposta _ totalPacotes hEstado hPacket,
    hChave, pacoteVerificacao_registro hMemoria]

theorem not_interrompido
    {dados : Dados}
    {totalPacotes : BitVec 32}
    {estado : Estado}
    {captura : Captura}
    {result : Estado × Option Frame}
    (hTratar :
      tratar dados totalPacotes estado captura = some result) :
    estado.interrompido = false := by
  cases hEstado : estado.interrompido with
  | false => rfl
  | true =>
      rw [tratar, hEstado, if_pos rfl] at hTratar
      cases hTratar

/- Every Reply is answered, whatever device it is from. -/
theorem pacoteVerificacao_isSome
    (memoria : ForroArgsDra.Memoria)
    (heap : List Char)
    (packet : Frame)
    (chaveHex configuracao : List Char) :
    (pacoteVerificacao memoria heap packet chaveHex
      configuracao).isSome := by
  have hField : ∀ {n : Nat} (byteArray : Vector Byte n)
      (texto : List Char),
      ∃ lido,
        hexstringToByteArray byteArray texto (2 * n) =
          some lido := by
    intro n byteArray texto
    have hFits : 2 * n / 2 ≤ n := by omega
    rw [hexstringToByteArray, if_pos hFits]
    exact ⟨_, rfl⟩
  have hEnvia : ∀ destMac srcMac idRodadaHex idHex provaHex
      verificacaoHex,
      (enviaPacoteVerificacao destMac srcMac idRodadaHex idHex
        provaHex verificacaoHex).isSome := by
    intro destMac srcMac idRodadaHex idHex provaHex
      verificacaoHex
    unfold enviaPacoteVerificacao
    dsimp only [Option.bind_eq_bind]
    rcases hField (Vector.replicate 16 0)
        (swapEndian idRodadaHex idRodadaLen) with
      ⟨idRodada, hIdRodada⟩
    rcases hField (Vector.replicate 16 0)
        (swapEndian (memcpy idHex 32) idDispositivoLen) with
      ⟨id, hId⟩
    rcases hField (Vector.replicate 64 0)
        (swapEndian provaHex provaLen) with
      ⟨prova, hProva⟩
    rcases hField (Vector.replicate 64 0)
        (swapEndian verificacaoHex provaLen) with
      ⟨verificacao, hVerificacao⟩
    rw [idRodadaLen] at hIdRodada ⊢
    rw [hIdRodada, Option.bind_some]
    rw [idDispositivoLen] at hId ⊢
    rw [hId, Option.bind_some]
    rw [provaLen] at hProva hVerificacao ⊢
    rw [hProva, Option.bind_some, hVerificacao]
    rfl
  exact hEnvia _ _ _ _ _ _

theorem isSome_of_tratar
    {dados : Dados}
    {totalPacotes : BitVec 32}
    {estado estado' : Estado}
    {captura : Captura}
    {sent : Option Frame}
    (hTratar :
      tratar dados totalPacotes estado captura =
        some (estado', sent))
    {c : Cabecalho}
    {payload : State}
    {rest : List Byte}
    (hPacket : captura.packet = quadroResposta c payload rest) :
    sent.isSome := by
  have hResult :=
    tratar_quadroResposta dados totalPacotes
      (not_interrompido hTratar) hPacket
  rw [hTratar] at hResult
  rw [(Prod.mk.inj (Option.some.inj hResult)).2]
  exact pacoteVerificacao_isSome _ _ _ _ _

------------------------------------------------------------
-- Runs
------------------------------------------------------------

/-
  A Reply of a record's device is answered with the proof of
  that record, and a Reply of no record's device with nothing.
-/
def Verificado
    (registros : List Registro)
    (x : Step Estado Captura (Option Frame)) : Prop :=
  ∀ c payload rest,
    x.event.packet = quadroResposta c payload rest →
      (∀ r ∈ registros, c.DoRegistro r →
        x.output =
          some
            (quadroCifra (trocado c)
              (verificacaoDe x.event.memoria r.bytesChave c)
              payload [])) ∧
        ((∀ r ∈ registros, ¬ c.DoRegistro r) →
          x.output = none)

/-
  The Reply is from a record's device, and the row that the
  counter names has the key of that record.
-/
def RowDoDispositivo
    (registros : List Registro)
    (x : Step Estado Captura (Option Frame)) : Prop :=
  ∀ c payload rest,
    x.event.packet = quadroResposta c payload rest →
      ∃ r ∈ registros, c.DoRegistro r ∧
        ∃ s, rowDoContador registros x.before = some s ∧
          s.bytesChave = r.bytesChave

/- Records of one device are one record. -/
theorem doRegistro_unique
    {registros : List Registro}
    (hArquivo : ArquivoValido registros)
    {c : Cabecalho}
    {r s : Registro}
    (hr : r ∈ registros)
    (hs : s ∈ registros)
    (hDoR : c.DoRegistro r)
    (hDoS : c.DoRegistro s) :
    r = s := by
  have hSwapped := hDoR.symm.trans hDoS
  have hIds : r.bytesId = s.bytesId := by
    rw [← Bytes.swapWords_swapWords r.bytesId, hSwapped,
      Bytes.swapWords_swapWords]
  exact List.inj_on_of_nodup_map hArquivo.ids hr hs hIds

/- One Reply that meets the condition. -/
theorem verificado_of_tratar
    {registros : List Registro}
    (hArquivo : ArquivoValido registros)
    {totalPacotes : BitVec 32}
    {history : List Captura}
    {s s' : Estado}
    {captura : Captura}
    {sent : Option Frame}
    (hTratar :
      tratar
          (carregarArquivoMemoria
            (registros.map Registro.texto))
          totalPacotes s captura =
        some (s', sent))
    (hMemoria : captura.memoria.Limpa)
    (hRow :
      RowDoDispositivo registros ⟨history, s, captura, sent⟩) :
    Verificado registros ⟨history, s, captura, sent⟩ := by
  intro c payload rest hPacket
  rcases hRow c payload rest hPacket with
    ⟨r, hMem, hDoRegistro, row, hRowDoContador, hChave⟩
  have hResult :=
    tratar_resposta totalPacotes (not_interrompido hTratar)
      hMemoria hRowDoContador hPacket
  have hSent :
      sent =
        some
          (quadroCifra (trocado c)
            (verificacaoDe captura.memoria row.bytesChave c)
            payload []) :=
    congrArg Prod.snd
      (Option.some.inj (hTratar.symm.trans hResult))
  constructor
  · intro r' hMem' hDoRegistro'
    have hSame :=
      doRegistro_unique hArquivo hMem hMem' hDoRegistro
        hDoRegistro'
    rw [← hSame, ← hChave]
    exact hSent
  · intro hAbsent
    exact absurd hDoRegistro (hAbsent r hMem)

/-
  In every run in which the row of each Reply has the key of
  its device, every Reply is checked with its own key.
-/
theorem verificado_of_row
    {registros : List Registro}
    (hArquivo : ArquivoValido registros)
    (totalPacotes : BitVec 32)
    {capturas : List Captura}
    (hMemorias :
      ∀ captura ∈ capturas, captura.memoria.Limpa)
    {last : Estado}
    {steps : List (Step Estado Captura (Option Frame))}
    (hRun :
      exec
          (tratar
            (carregarArquivoMemoria
              (registros.map Registro.texto))
            totalPacotes)
          estadoInicial capturas =
        some (last, steps))
    (hRows : ∀ x ∈ steps, RowDoDispositivo registros x) :
    ∀ x ∈ steps, Verificado registros x := by
  have hStep :
      ∀ (history : List Captura) (s : Estado)
          (captura : Captura) (s' : Estado)
          (sent : Option Frame),
        True →
          tratar
              (carregarArquivoMemoria
                (registros.map Registro.texto))
              totalPacotes s captura =
            some (s', sent) →
          RowDoDispositivo registros
              ⟨history, s, captura, sent⟩ ∧
            captura.memoria.Limpa →
          True ∧
            Verificado registros ⟨history, s, captura, sent⟩ := by
    intro history s captura s' sent _ hTratar hCondition
    exact
      ⟨trivial,
        verificado_of_tratar hArquivo hTratar hCondition.2
          hCondition.1⟩
  have hInvariant :=
    @Transition.exec_invariant _ _ _ (fun _ _ => True)
      (fun x =>
        RowDoDispositivo registros x ∧ x.event.memoria.Limpa)
      (Verificado registros) _ hStep _ _ _ _ trivial hRun
  exact
    (hInvariant
      (fun x hx =>
        ⟨hRows x hx,
          hMemorias x.event
            (Transition.event_mem_of_exec hRun x hx)⟩)).2

------------------------------------------------------------
-- The Key Of A Verified Reply
------------------------------------------------------------

/- The cipher of a frame is its own. -/
theorem cipher_of_quadroCifra
    {c : Cabecalho}
    {cipher cipher' payload : State}
    (hSame :
      quadroCifra c cipher payload [] =
        quadroCifra c cipher' payload []) :
    cipher = cipher' := by
  have hParse := Tna.ingressParser_quadroCifra c cipher payload []
  rw [hSame, Tna.ingressParser_quadroCifra] at hParse
  have hHdr := (Prod.mk.inj (Option.some.inj hParse)).1
  exact
    (congrArg (fun hdr => hdr.forroCipher.fields) hHdr).symm

/- States of one Reply are equal only for equal keys. -/
theorem chave_of_estadoForro
    {chave chave' : List Byte}
    (hLength : chave.length = 32)
    (hLength' : chave'.length = 32)
    {configuracao : BitVec 256}
    {c : Cabecalho}
    (hSame :
      Tna.estadoForro chave configuracao c =
        Tna.estadoForro chave' configuracao c) :
    chave = chave' := by
  rw [Tna.estadoForro, Tna.estadoForro, state_eq_iff] at hSame
  rcases hSame with
    ⟨⟨h0, h1, h2, h3⟩, _, ⟨h4, h5, h6, h7⟩, _⟩
  have hWords :
      ∀ i < 8,
        Forro.palavra chave i = Forro.palavra chave' i := by
    intro i hi
    interval_cases i
    · exact h0
    · exact h1
    · exact h2
    · exact h3
    · exact h4
    · exact h5
    · exact h6
    · exact h7
  have hVectors :=
    @Forro.eq_of_palavras 32 8 ⟨chave.toArray, hLength⟩
      ⟨chave'.toArray, hLength'⟩ rfl hWords
  exact congrArg Vector.toList hVectors

/-
  A Reply that is verified is of a registered device, and the
  row of the counter has its key, unless the cipher maps the
  states for the two keys to the same words.
-/
theorem row_of_verificado
    {registros : List Registro}
    {totalPacotes : BitVec 32}
    {history : List Captura}
    {s s' : Estado}
    {captura : Captura}
    {sent : Option Frame}
    (hTratar :
      tratar
          (carregarArquivoMemoria
            (registros.map Registro.texto))
          totalPacotes s captura =
        some (s', sent))
    (hMemoria : captura.memoria.Limpa)
    (hVerificado :
      Verificado registros ⟨history, s, captura, sent⟩)
    {c : Cabecalho}
    {payload : State}
    {rest : List Byte}
    (hPacket : captura.packet = quadroResposta c payload rest) :
    ∃ r ∈ registros, c.DoRegistro r ∧
      ∀ row, rowDoContador registros s = some row →
        row.bytesChave = r.bytesChave ∨
          Colisao
            (Tna.estadoForro row.bytesChave
              (Tna.configuracaoDaMedida
                captura.memoria.configuracao.toList)
              c)
            (Tna.estadoForro r.bytesChave
              (Tna.configuracaoDaMedida
                captura.memoria.configuracao.toList)
              c) := by
  rcases hVerificado c payload rest hPacket with
    ⟨hOwn, hAbsent⟩
  have hEstado := not_interrompido hTratar
  have hRegistrado : ∃ r ∈ registros, c.DoRegistro r := by
    by_contra hNenhum
    have hSent : sent = none :=
      hAbsent (fun r hMem hDo => hNenhum ⟨r, hMem, hDo⟩)
    have hSome := isSome_of_tratar hTratar hPacket
    rw [hSent] at hSome
    cases hSome
  rcases hRegistrado with ⟨r, hMem, hDoRegistro⟩
  refine ⟨r, hMem, hDoRegistro, ?_⟩
  intro row hRow
  have hResult :=
    tratar_resposta totalPacotes hEstado hMemoria hRow hPacket
  have hSent :=
    congrArg Prod.snd
      (Option.some.inj (hResult.symm.trans hTratar))
  have hSame :=
    cipher_of_quadroCifra
      (Option.some.inj
        (hSent.trans (hOwn r hMem hDoRegistro)))
  by_cases hStates :
      Tna.estadoForro row.bytesChave
          (Tna.configuracaoDaMedida
            captura.memoria.configuracao.toList)
          c =
        Tna.estadoForro r.bytesChave
          (Tna.configuracaoDaMedida
            captura.memoria.configuracao.toList)
          c
  · exact
      Or.inl
        (chave_of_estadoForro row.length_bytesChave
          r.length_bytesChave hStates)
  · exact Or.inr ⟨hStates, hSame⟩

------------------------------------------------------------
-- One Device, Two Replies
------------------------------------------------------------

/- A second record, of another device with another key. -/
def registroVizinho : Registro where
  idDispositivo := "30303030303031383430343936393333".toList
  chave := List.replicate 64 '1'
  prova := List.replicate 128 '0'
  hexId := by decide +kernel
  hexChave := by decide +kernel
  hexProva := registroExemplo.hexProva
  lengthId := by decide +kernel
  lengthChave := by decide +kernel
  lengthProva := registroExemplo.lengthProva

theorem arquivoValido_vizinho :
    ArquivoValido [registroExemplo, registroVizinho] where
  ids := by decide +kernel
  quantidade := by decide

/- A Reply of the first device. -/
def capturaExemplo : Captura where
  packet := quadroResposta Tna.cabecalhoDaLinha Tna.zeroState []
  memoria := ForroArgsDra.memoriaZero
  heap := []

/- What is sent for it with the key of a record. -/
def quadroVerificado (r : Registro) : Frame :=
  quadroCifra (trocado Tna.cabecalhoDaLinha)
    (verificacaoDe ForroArgsDra.memoriaZero r.bytesChave
      Tna.cabecalhoDaLinha)
    Tna.zeroState []

theorem tratar_exemplo
    (n : BitVec 32)
    (r : Registro)
    (hRow :
      rowDoContador [registroExemplo, registroVizinho]
          ⟨n, false⟩ =
        some r) :
    tratar
        (carregarArquivoMemoria
          ([registroExemplo, registroVizinho].map
            Registro.texto))
        100 ⟨n, false⟩ capturaExemplo =
      some
        (⟨n + 1, decide (n + 1 = 100)⟩,
          some (quadroVerificado r)) :=
  tratar_resposta 100 rfl ForroArgsDra.limpa_memoriaZero hRow rfl

/- The run on two such Replies. -/
theorem exec_exemplo :
    exec
        (tratar
          (carregarArquivoMemoria
            ([registroExemplo, registroVizinho].map
              Registro.texto))
          100)
        estadoInicial [capturaExemplo, capturaExemplo] =
      some
        (⟨2, false⟩,
          [⟨[], ⟨0, false⟩, capturaExemplo,
              some (quadroVerificado registroExemplo)⟩,
            ⟨[capturaExemplo], ⟨1, false⟩, capturaExemplo,
              some (quadroVerificado registroVizinho)⟩]) := by
  rw [exec, estadoInicial, Transition.execFrom,
    tratar_exemplo 0 registroExemplo rfl]
  dsimp only
  have hCounter :
      (⟨0 + 1, decide ((0 + 1 : BitVec 32) = 100)⟩ : Estado) =
        ⟨1, false⟩ := by
    decide
  rw [hCounter, Transition.execFrom,
    tratar_exemplo 1 registroVizinho rfl]
  rfl

/-
  Two Replies of the first device of a file of two: the second
  one is checked with the key of the second device.
-/
theorem verificado_not_every_run :
    ¬ ∀ (registros : List Registro) (totalPacotes : BitVec 32)
        (capturas : List Captura) (last : Estado)
        (steps : List (Step Estado Captura (Option Frame))),
      ArquivoValido registros →
        (∀ captura ∈ capturas, captura.memoria.Limpa) →
        exec
            (tratar
              (carregarArquivoMemoria
                (registros.map Registro.texto))
              totalPacotes)
            estadoInicial capturas =
          some (last, steps) →
        ∀ x ∈ steps, Verificado registros x := by
  intro hClaim
  have hLimpa := ForroArgsDra.limpa_memoriaZero
  have hVerificado :=
    hClaim [registroExemplo, registroVizinho] 100
      [capturaExemplo, capturaExemplo] _ _
      arquivoValido_vizinho
      (by
        intro captura hMem
        rcases List.mem_pair.mp hMem with hEq | hEq <;>
          rw [hEq] <;> exact hLimpa)
      exec_exemplo _ (List.mem_cons_of_mem _ List.mem_cons_self)
  have hOwn :=
    (hVerificado Tna.cabecalhoDaLinha Tna.zeroState [] rfl).1
      registroExemplo (by simp) (by decide +kernel)
  have hSame := cipher_of_quadroCifra (Option.some.inj hOwn)
  exact absurd hSame (by decide +kernel)

/- The first of the two Replies is in file order. -/
theorem verificado_of_row_exemplo :
    Verificado [registroExemplo, registroVizinho]
      ⟨[], ⟨0, false⟩, capturaExemplo,
        some (quadroVerificado registroExemplo)⟩ := by
  have hRun :
      exec
          (tratar
            (carregarArquivoMemoria
              ([registroExemplo, registroVizinho].map
                Registro.texto))
            100)
          estadoInicial [capturaExemplo] =
        some
          (⟨1, false⟩,
            [⟨[], ⟨0, false⟩, capturaExemplo,
              some (quadroVerificado registroExemplo)⟩]) := by
    rw [exec, estadoInicial, Transition.execFrom,
      tratar_exemplo 0 registroExemplo rfl]
    rfl
  have hLimpas :
      ∀ captura ∈ [capturaExemplo], captura.memoria.Limpa := by
    intro captura hMem
    rw [List.mem_singleton.mp hMem]
    exact ForroArgsDra.limpa_memoriaZero
  refine
    verificado_of_row arquivoValido_vizinho 100 hLimpas hRun ?_
      _ List.mem_cons_self
  intro x hx c payload rest hPacket
  rw [List.mem_singleton.mp hx] at hPacket ⊢
  have hId : Tna.cabecalhoDaLinha.bytesIdDispositivo =
      c.bytesIdDispositivo := by
    have hField := congrArg replyIdDispositivo hPacket
    rw [replyIdDispositivo_quadroResposta] at hField
    rw [← hField]
    exact (replyIdDispositivo_quadroResposta _ _ _).symm
  have hDoRegistro : c.DoRegistro registroExemplo := by
    rw [Cabecalho.DoRegistro, ← hId]
    decide +kernel
  exact
    ⟨registroExemplo, by simp, hDoRegistro, registroExemplo,
      rfl, rfl⟩

end VerificaRede

end Tools

end P4dra
