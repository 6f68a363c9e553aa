import P4dra.Rede.Rounds

/-
  Every acceptance has a device behind it.

  As long as nobody but the services sends frames of the
  operations 0x2 to 0x4, a frame that reaches the controller
  goes back, in this order, to a Start, to a Request with the
  same round and to a Reply with the same fields that a
  service sent for it. Frames may be lost, repeated, delayed
  and reordered, and services may fail in any way.

  Main declarations:
    * `Respondeu`, `Passado`
    * `passado_tratar`, `explicada_of_exec`
    * `acordo`
-/

------------------------------------------------------------
-- The Past Of A Frame
------------------------------------------------------------

namespace P4dra

open Bytes (Byte)
open Tna (BfrtCall Cabecalho Frame Origem quadroSemId
  quadroResposta quadroCifra portaCPU)
open Tools
open Optee (Storage)
open Transition (Step exec)

namespace Rede

variable {ι : Type}

/-
  At this step a service sent the frame, for a Request that
  the switch had made of a Start that somebody had sent.
-/
def Respondeu
    (x : Step (Estado ι) (Evento ι) Saida)
    (reply : Frame) : Prop :=
  ∃ i pedido amb captura saida,
    x.event = .captura i pedido amb captura ∧
      x.output = .host saida ∧
      saida.reply = some reply ∧
      ∃ start corpo,
        Evento.envio (quadroSemId start 0x0 corpo) ∈
            x.history ∧
          pedido = quadroSemId start 0x1 corpo ∧
          ∃ c prova,
            reply = quadroResposta c prova [] ∧
              c.bytesIdRodada = start.bytesIdRodada

/- What a client may find on the network. -/
def Entregavel
    (history : List (Evento ι))
    (frame : Frame) : Prop :=
  (∃ ethernet corpo,
    ethernet.etherType ≠ Tna.etherTypeP4DRA ∧
      frame = Tna.ethernetH.encode ethernet ++ corpo) ∨
    (∃ c corpo,
      Evento.envio (quadroSemId c 0x0 corpo) ∈ history ∧
        frame = quadroSemId c 0x1 corpo) ∨
    ∃ c corpo, frame = quadroSemId c 0x5 corpo

/- Where the frames of the network come from. -/
structure Passado
    (past : List (Step (Estado ι) (Evento ι) Saida))
    (rede : Estado ι) : Prop where
  hosts : ∀ i, Optee.Service.GlobalValido (rede.hosts i)
  enviados :
    ∀ frame ∈ rede.enviados,
      Evento.envio frame ∈ past.map Step.event ∨
        ∃ x ∈ past, Respondeu x frame
  entregues :
    ∀ frame ∈ rede.entregues,
      Entregavel (past.map Step.event) frame

/- Nothing was sent, and the services are as they may be. -/
structure Inicial (rede : Estado ι) : Prop where
  hosts : ∀ i, Optee.Service.GlobalValido (rede.hosts i)
  enviados : rede.enviados = []
  entregues : rede.entregues = []

theorem inicial_estadoInicial
    (storage : ι → Storage) :
    Inicial (estadoInicial storage) where
  hosts := fun i => Optee.Service.globalValido_inicial (storage i)
  enviados := rfl
  entregues := rfl

theorem passado_inicial
    {rede : Estado ι}
    (hInicial : Inicial rede) :
    Passado [] rede where
  hosts := hInicial.hosts
  enviados := by
    intro frame hMem
    rw [hInicial.enviados] at hMem
    exact absurd hMem List.not_mem_nil
  entregues := by
    intro frame hMem
    rw [hInicial.entregues] at hMem
    exact absurd hMem List.not_mem_nil

/- What is past stays past. -/
theorem entregavel_append
    {history : List (Evento ι)}
    {frame : Frame}
    (hFrame : Entregavel history frame)
    (evento : Evento ι) :
    Entregavel (history ++ [evento]) frame := by
  rcases hFrame with hOther | ⟨c, corpo, hMem, hSame⟩ | hSetup
  · exact Or.inl hOther
  · exact Or.inr (Or.inl
      ⟨c, corpo, List.mem_append_left _ hMem, hSame⟩)
  · exact Or.inr (Or.inr hSetup)

theorem enviado_append
    {past : List (Step (Estado ι) (Evento ι) Saida)}
    {frame : Frame}
    (x : Step (Estado ι) (Evento ι) Saida)
    (hFrame :
      Evento.envio frame ∈ past.map Step.event ∨
        ∃ y ∈ past, Respondeu y frame) :
    Evento.envio frame ∈ (past ++ [x]).map Step.event ∨
      ∃ y ∈ past ++ [x], Respondeu y frame := by
  rcases hFrame with hSent | ⟨y, hMem, hReply⟩
  · left
    rw [List.map_append]
    exact List.mem_append_left _ hSent
  · exact Or.inr ⟨y, List.mem_append_left _ hMem, hReply⟩

/- A service takes a captured frame for a Request only if the
   switch had delivered one. -/
theorem pedido_of_entregavel
    {history : List (Evento ι)}
    {frame : Frame}
    {captura : Optee.Service.Captura}
    (hFrame : Entregavel history frame)
    (hPrefix : frame <+: captura.packet)
    (hPedido : Optee.Service.Pedido captura.packet) :
    ∃ c corpo resto,
      Evento.envio (quadroSemId c 0x0 corpo) ∈ history ∧
        frame = quadroSemId c 0x1 corpo ∧
        captura.packet = quadroSemId c 0x1 (corpo ++ resto) := by
  rcases hPrefix with ⟨resto, hPacket⟩
  rcases hPedido with ⟨hType, hOper⟩
  rcases hFrame with ⟨ethernet, corpo, hNot, hSame⟩ |
    ⟨c, corpo, hMem, hSame⟩ | ⟨c, corpo, hSame⟩
  · have hField :
        etherType captura.packet =
          (Codec.bits 2).encode ethernet.etherType := by
      have hBytes :
          captura.packet =
            mac ethernet.dstAddr ++ mac ethernet.srcAddr ++
              ((Codec.bits 2).encode ethernet.etherType ++
                (corpo ++ resto)) := by
        rw [← hPacket, hSame, List.append_assoc]
        simp only [Tna.ethernetH, Codec.iso, Codec.pair, mac,
          List.append_assoc]
        rfl
      rw [hBytes]
      refine Bytes.slice_middle _ ?_
        ((Codec.bits 2).length_encode _)
      rw [List.length_append, length_mac, length_mac]
    have hCustom :
        (Codec.bits 2).encode Tna.etherTypeP4DRA =
          etherTypeCustom := by
      decide
    rw [hField, ← hCustom] at hType
    exact absurd ((Codec.bits 2).encode_injective hType) hNot
  · refine ⟨c, corpo, resto, hMem, hSame, ?_⟩
    rw [← hPacket, hSame, Optee.Service.quadroSemId_append]
  · rw [← hPacket, hSame, Optee.Service.quadroSemId_append,
      operHdrOper_quadroSemId] at hOper
    exact absurd hOper (by decide)

------------------------------------------------------------
-- Every Step
------------------------------------------------------------

/- A Reply has no other operation and nothing after its proof. -/
theorem origem_quadroResposta
    {c c' : Cabecalho}
    {origem : Origem}
    {prova prova' : State}
    {rest : List Byte}
    (hSame :
      origem.quadro c (Tna.forroStateT.encode prova ++ rest) =
        quadroResposta c' prova' []) :
    origem = .registro ∧ c = c' ∧ prova = prova' ∧ rest = [] := by
  have hPedido :=
    Tna.pedido_origem c origem
      (Tna.forroStateT.encode prova ++ rest)
  have hReply :
      Tna.pedido (quadroResposta c' prova' []) =
        some
          (.conferir c' .registro
            (Tna.forroStateT.encode prova' ++ [])) :=
    Tna.pedido_origem c' .registro _
  rw [hSame, hReply] at hPedido
  injection hPedido with hConferir
  injection hConferir with hC hOrigem hCorpo
  have hExtract := Tna.forroStateT.extract_append prova rest
  rw [← hCorpo, Codec.extract_append] at hExtract
  injection hExtract with hPair
  injection hPair with hProva hRest
  exact ⟨hOrigem.symm, hC.symm, hProva.symm, hRest.symm⟩

/- Nothing that a service keeps ceases to be valid. -/
theorem globalValido_avancar
    [DecidableEq ι]
    {rede : Estado ι}
    {i : ι}
    {host : Optee.Service.Estado}
    {evento : Optee.Service.Evento}
    {saida : Optee.Service.Saida}
    (hHosts :
      ∀ j, Optee.Service.GlobalValido (rede.hosts j))
    (hTratar :
      Optee.Service.tratar (rede.hosts i) evento =
        some (host, saida)) :
    ∀ j,
      Optee.Service.GlobalValido
        ((rede.avancar i host saida).hosts j) := by
  intro j
  by_cases hSame : j = i
  · subst hSame
    rw [hosts_avancar, Function.update_self]
    exact Optee.Service.globalValido_tratar (hHosts j) hTratar
  · rw [hosts_avancar, Function.update_of_ne hSame]
    exact hHosts j

/- A Reply that a service sends has a Request and a Start. -/
theorem respondeu_of_tratar
    {past : List (Step (Estado ι) (Evento ι) Saida)}
    {rede : Estado ι}
    {i : ι}
    {frame reply : Frame}
    {amb : Optee.Service.Ambiente}
    {captura : Optee.Service.Captura}
    {host : Optee.Service.Estado}
    {saida : Optee.Service.Saida}
    (hPast : Passado past rede)
    (hMem : frame ∈ rede.entregues)
    (hPrefix : frame <+: captura.packet)
    (hTratar :
      Optee.Service.tratar (rede.hosts i)
          (.captura amb captura) =
        some (host, saida))
    (hReply : saida.reply = some reply) :
    Respondeu
      ⟨past.map Step.event, rede,
        .captura i frame amb captura, .host saida⟩
      reply := by
  rcases Optee.Service.reply_of_tratar (hPast.hosts i) hTratar
    with ⟨hIff, hForm⟩
  have hRespondido := hIff.mp (by rw [hReply]; rfl)
  rcases hForm reply hReply with
    ⟨id, hLength, _, _, hFrame⟩
  rcases pedido_of_entregavel (hPast.entregues frame hMem)
      hPrefix hRespondido.pedido with
    ⟨start, corpo, resto, hSent, hPedido, hPacket⟩
  rcases exists_quadroResposta captura hLength
      (Optee.Service.linhaLida amb saida.resposta) with
    ⟨c, prova, hResposta, hRodada⟩
  rw [hPacket, operHdrIdRodada_quadroSemId] at hRodada
  exact
    ⟨i, frame, amb, captura, saida, rfl, rfl, hReply, start,
      corpo, hSent, hPedido, c, prova,
      hFrame.trans hResposta, hRodada⟩

/- What one event adds to the network has a past. -/
theorem passado_tratar
    [DecidableEq ι]
    {confIni : Nat}
    (hConf : confIni < 2 ^ 256)
    {registros : List Registro}
    (hArquivo : ArquivoValido registros)
    {past : List (Step (Estado ι) (Evento ι) Saida)}
    {rede rede' : Estado ι}
    {evento : Evento ι}
    {saida : Saida}
    (hPast : Passado past rede)
    (hTratar :
      tratar
          (Tna.setup confIni
            (registros.map Registro.texto)).calls
          rede evento =
        some (rede', saida)) :
    Passado
      (past ++ [⟨past.map Step.event, rede, evento, saida⟩])
      rede' := by
  let x : Step (Estado ι) (Evento ι) Saida :=
    ⟨past.map Step.event, rede, evento, saida⟩
  have hEvents :
      (past ++ [x]).map Step.event =
        past.map Step.event ++ [evento] :=
    List.map_append
  have hOld :
      ∀ frame ∈ rede.enviados,
        Evento.envio frame ∈ (past ++ [x]).map Step.event ∨
          ∃ y ∈ past ++ [x], Respondeu y frame :=
    fun frame hMem =>
      enviado_append x (hPast.enviados frame hMem)
  have hDelivered :
      ∀ frame ∈ rede.entregues,
        Entregavel ((past ++ [x]).map Step.event) frame := by
    intro frame hMem
    rw [hEvents]
    exact entregavel_append (hPast.entregues frame hMem) evento
  cases evento with
  | envio frame =>
      cases hTratar
      refine ⟨hPast.hosts, ?_, hDelivered⟩
      intro frame' hMem
      rcases List.mem_append.mp hMem with hMem | hMem
      · exact hOld frame' hMem
      · left
        rw [hEvents, List.mem_singleton.mp hMem]
        exact List.mem_append_right _ (List.mem_singleton_self _)
  | comutacao frame =>
      rcases tratar_comutacao hTratar with
        ⟨hMem, hRede, _⟩
      rw [processar_registros hConf hArquivo] at hRede
      subst hRede
      unfold Estado.emitir
      split
      · rename_i port saida' hResult
        injection hResult with hResult
        split
        · exact ⟨hPast.hosts, hOld, hDelivered⟩
        · rename_i hPort
          refine ⟨hPast.hosts, hOld, ?_⟩
          intro frame' hMem'
          rcases List.mem_append.mp hMem' with hMem' | hMem'
          · exact hDelivered frame' hMem'
          rw [List.mem_singleton.mp hMem', hEvents]
          apply entregavel_append
          rcases entregue_cases hPort hResult with
            hOther | ⟨c, corpo, hStart, hRequest⟩ | hSetup
          · exact Or.inl hOther
          · refine Or.inr (Or.inl ⟨c, corpo, ?_, hRequest⟩)
            rcases hPast.enviados frame hMem with
              hSent | ⟨y, _, hReply⟩
            · rw [← hStart]
              exact hSent
            · -- A service sends no Start.
              rcases hReply with
                ⟨_, _, _, _, _, _, _, _, _, _, _, _, c', prova,
                  hSame, _⟩
              have hOper :
                  operHdrOper frame = [0x0] := by
                rw [hStart, operHdrOper_quadroSemId]
              rw [hSame, quadroResposta_eq,
                operHdrOper_quadroSemId] at hOper
              exact absurd hOper (by decide)
          · exact Or.inr (Or.inr hSetup)
      · exact ⟨hPast.hosts, hOld, hDelivered⟩
  | captura i frame amb captura =>
      rcases tratar_captura hTratar with
        ⟨hMem, hPrefix, host, saidaHost, hHost, hRede, hSaida⟩
      subst hRede hSaida
      refine
        ⟨globalValido_avancar hPast.hosts hHost, ?_, hDelivered⟩
      intro frame' hMem'
      rcases List.mem_append.mp hMem' with hMem' | hMem'
      · exact hOld frame' hMem'
      · refine Or.inr
          ⟨x, List.mem_append_right _
            (List.mem_singleton_self _), ?_⟩
        exact respondeu_of_tratar hPast hMem hPrefix hHost
          (by simpa using hMem')
  | gravacao i k escrita =>
      rcases tratar_gravacao hTratar with
        ⟨host, saidaHost, hHost, hRede, hSaida⟩
      subst hRede hSaida
      have hNada : saidaHost = .nada :=
        (Optee.Service.tratar_gravacao hHost).1
      refine
        ⟨globalValido_avancar hPast.hosts hHost, ?_, hDelivered⟩
      intro frame' hMem'
      rw [hNada] at hMem'
      rcases List.mem_append.mp hMem' with hMem' | hMem'
      · exact hOld frame' hMem'
      · exact absurd hMem' List.not_mem_nil

------------------------------------------------------------
-- Agreement
------------------------------------------------------------

/- The frames that others send are not of the operations that
   carry an identifier. -/
def SemForja
    (x : Step (Estado ι) (Evento ι) Saida) : Prop :=
  ∀ frame, x.event = .envio frame → ¬ Interno frame

/- The frame is the proof of a record for the header `c`. -/
def ProvaDe
    (confIni : Nat)
    (registros : List Registro)
    (c : Cabecalho)
    (prova : State) : Prop :=
  ∃ r ∈ registros,
    c.DoRegistro r ∧
      prova =
        Forro.forroWords
          (Tna.estadoForro r.bytesChave
            (BitVec.ofNat 256 confIni) c)

/- A frame that is accepted is a Reply of a service. -/
theorem acordo_tratar
    [DecidableEq ι]
    {confIni : Nat}
    (hConf : confIni < 2 ^ 256)
    {registros : List Registro}
    (hArquivo : ArquivoValido registros)
    {past : List (Step (Estado ι) (Evento ι) Saida)}
    {rede rede' : Estado ι}
    {evento : Evento ι}
    {saida : Saida}
    {aceito : Frame}
    (hPast : Passado past rede)
    (hSemForja : ∀ x ∈ past, SemForja x)
    (hTratar :
      tratar
          (Tna.setup confIni
            (registros.map Registro.texto)).calls
          rede evento =
        some (rede', saida))
    (hAceito :
      saida = .resultado (some (.emitido portaCPU aceito))) :
    ∃ c prova,
      aceito = quadroCifra c prova prova [] ∧
        ProvaDe confIni registros c prova ∧
        ∃ x ∈ past, Respondeu x (quadroResposta c prova []) := by
  cases evento with
  | envio frame =>
      cases hTratar
      cases hAceito
  | captura i frame amb captura =>
      rcases tratar_captura hTratar with
        ⟨_, _, _, _, _, _, hSaida⟩
      rw [hSaida] at hAceito
      cases hAceito
  | gravacao i k escrita =>
      rcases tratar_gravacao hTratar with
        ⟨_, _, _, _, hSaida⟩
      rw [hSaida] at hAceito
      cases hAceito
  | comutacao frame =>
      rcases tratar_comutacao hTratar with
        ⟨hMem, _, hSaida⟩
      rw [processar_registros hConf hArquivo, hAceito]
        at hSaida
      injection hSaida with hSaida
      injection hSaida with hResult
      rcases Tna.aceito_cases hResult.symm with
        ⟨c, origem, prova, rest, hFrame, hProva, hSame⟩
      rcases hPast.enviados frame hMem with
        hSent | ⟨x, hx, hReply⟩
      · rcases List.mem_map.mp hSent with ⟨y, hy, hEvent⟩
        exact absurd
          (hFrame ▸ interno_origem c origem _)
          (hSemForja y hy frame hEvent)
      · have hForm := hReply
        rcases hForm with
          ⟨_, _, _, _, _, _, _, _, _, _, _, _, c', prova', hQuadro,
            _⟩
        rcases origem_quadroResposta (hFrame.symm.trans hQuadro)
          with ⟨hOrigem, hC, hProvas, hRest⟩
        subst hOrigem hC hProvas hRest
        rcases Option.map_eq_some_iff.mp hProva with
          ⟨v, hEstado, hForro⟩
        rcases (Tna.estadoDoArquivo_eq_some_iff confIni
            hArquivo.ids c v).mp hEstado with
          ⟨r, hr, hDoRegistro, hState⟩
        refine
          ⟨c, prova, hSame,
            ⟨r, hr, hDoRegistro, by rw [← hForro, hState]⟩, x,
            hx, ?_⟩
        rw [← hQuadro]
        exact hReply

/-
  Each acceptance of the step has the proof of a record, and
  a service answered with it in the past.
-/
def Explicada
    (confIni : Nat)
    (registros : List Registro)
    (past : List (Step (Estado ι) (Evento ι) Saida))
    (y : Step (Estado ι) (Evento ι) Saida) : Prop :=
  ∀ aceito,
    y.output = .resultado (some (.emitido portaCPU aceito)) →
      ∃ c prova,
        aceito = quadroCifra c prova prova [] ∧
          ProvaDe confIni registros c prova ∧
          ∃ x ∈ past, Respondeu x (quadroResposta c prova [])

/- Every step of a run is accounted for by those before it. -/
theorem explicada_of_exec
    [DecidableEq ι]
    {confIni : Nat}
    (hConf : confIni < 2 ^ 256)
    {registros : List Registro}
    (hArquivo : ArquivoValido registros)
    {rede last : Estado ι}
    (hInicial : Inicial rede)
    {eventos : List (Evento ι)}
    {steps : List (Step (Estado ι) (Evento ι) Saida)}
    (hRun :
      exec
          (tratar
            (Tna.setup confIni
              (registros.map Registro.texto)).calls)
          rede eventos =
        some (last, steps))
    (hSemForja : ∀ x ∈ steps, SemForja x) :
    ∀ antes y depois,
      steps = antes ++ y :: depois →
        Explicada confIni registros antes y := by
  let Past :=
    fun (past : List (Step (Estado ι) (Evento ι) Saida))
        (rede : Estado ι) =>
      Passado past rede ∧ ∀ x ∈ past, SemForja x
  have hStep :
      ∀ past rede evento rede' saida,
        Past past rede →
          tratar
              (Tna.setup confIni
                (registros.map Registro.texto)).calls
              rede evento =
            some (rede', saida) →
          SemForja ⟨past.map Step.event, rede, evento, saida⟩ →
          Past
              (past ++
                [⟨past.map Step.event, rede, evento, saida⟩])
              rede' ∧
            Explicada confIni registros past
              ⟨past.map Step.event, rede, evento, saida⟩ := by
    intro past rede evento rede' saida hPast hTratar hC
    refine
      ⟨⟨passado_tratar hConf hArquivo hPast.1 hTratar, ?_⟩,
        fun aceito hAceito =>
          acordo_tratar hConf hArquivo hPast.1 hPast.2 hTratar
            hAceito⟩
    intro x hx
    rcases List.mem_append.mp hx with hx | hx
    · exact hPast.2 x hx
    · rw [List.mem_singleton.mp hx]
      exact hC
  have hInit : Past [] rede :=
    ⟨passado_inicial hInicial,
      fun x hx => absurd hx List.not_mem_nil⟩
  exact (Transition.exec_past hStep hInit hRun hSemForja).2

/-
  In every run without forged frames, an acceptance comes
  after a service sent the accepted Reply, and that after
  the Start of its round was sent.
-/
theorem acordo
    [DecidableEq ι]
    {confIni : Nat}
    (hConf : confIni < 2 ^ 256)
    {registros : List Registro}
    (hArquivo : ArquivoValido registros)
    {rede last : Estado ι}
    (hInicial : Inicial rede)
    {eventos : List (Evento ι)}
    {steps : List (Step (Estado ι) (Evento ι) Saida)}
    (hRun :
      exec
          (tratar
            (Tna.setup confIni
              (registros.map Registro.texto)).calls)
          rede eventos =
        some (last, steps))
    (hSemForja : ∀ x ∈ steps, SemForja x)
    {antes depois : List (Step (Estado ι) (Evento ι) Saida)}
    {y : Step (Estado ι) (Evento ι) Saida}
    (hSplit : steps = antes ++ y :: depois)
    {aceito : Frame}
    (hAceito :
      y.output = .resultado (some (.emitido portaCPU aceito))) :
    ∃ c prova,
      aceito = quadroCifra c prova prova [] ∧
        ProvaDe confIni registros c prova ∧
        ∃ x ∈ antes, Respondeu x (quadroResposta c prova []) :=
  explicada_of_exec hConf hArquivo hInicial hRun hSemForja antes
    y depois hSplit aceito hAceito

theorem inicial_redeExemplo : Inicial redeExemplo := by
  refine ⟨?_, rfl, rfl⟩
  intro i hex hHex
  refine ⟨Bytes.swapWords registroExemplo.bytesId, ?_, ?_⟩
  · rw [Bytes.length_swapWords, registroExemplo.length_bytesId]
  · rw [Optee.Service.digitosTrocados_swapWords_bytesId]
    exact (Option.some.inj hHex).symm

/- All that is sent in the sample round is a Start. -/
theorem semForja_exemplo
    {calls : List BfrtCall}
    {last : Estado Unit}
    {steps : List (Step (Estado Unit) (Evento Unit) Saida)}
    (hRun :
      exec (tratar calls) redeExemplo eventosExemplo =
        some (last, steps)) :
    ∀ x ∈ steps, SemForja x := by
  intro x hx frame hEnvio
  have hEvent := Transition.event_mem_of_exec hRun x hx
  rw [hEnvio] at hEvent
  have hFrame : frame = quadroSemId startExemplo 0x0 [] := by
    simpa [eventosExemplo] using hEvent
  rw [hFrame]
  exact not_interno_of_repassar (pedido_start startExemplo)

/- The last step of the sample round is accounted for. -/
theorem acordo_exemplo :
    ∃ c prova,
      aceitacaoDe startExemplo registroExemplo =
          quadroCifra c prova prova [] ∧
        ProvaDe 0 [registroExemplo] c prova := by
  rcases exec_exemplo with ⟨last, antes, y, hRun, hAceito⟩
  rcases acordo (by decide) arquivoValido_exemplo
      inicial_redeExemplo hRun (semForja_exemplo hRun) rfl
      hAceito with
    ⟨c, prova, hSame, hProva, _⟩
  exact ⟨c, prova, hSame, hProva⟩

end Rede

end P4dra
