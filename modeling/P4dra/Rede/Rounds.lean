import P4dra.Rede.Network

/-
  The Reply of a provisioned service is accepted.

  While nobody provisions a service again and its own calls
  succeed, it keeps the secrets of its record, whatever the
  rest of the network does. Each of its answers to a Request
  is then accepted whenever the switch takes it.

  Main declarations:
    * `Calmo`
    * `provisionado_tratar`
    * `reply_aceito`
-/

------------------------------------------------------------
-- Steps Of A Round
------------------------------------------------------------

namespace P4dra

open Bytes (Byte slice)
open Tna (BfrtCall Cabecalho Frame quadroSemId quadroResposta
  quadroCifra processar portaCPU portaCliente especificacao)
open Tools
open Optee.Service (Provisionado cabecalhoReply provaEsperada
  respostaEsperada)
open Transition (Step exec exec_snoc)

namespace Rede

variable {ι : Type}

/- The switch for a file and the measurement zero. -/
def switch (registros : List Registro) : List BfrtCall :=
  (Tna.setup 0 (registros.map Registro.texto)).calls

/- The Reply of the device of a record to a Request. -/
def replyDe (c : Cabecalho) (r : Registro) : Frame :=
  quadroResposta (cabecalhoReply c r) (provaEsperada c r) []

/- What the controller gets for that Reply. -/
def aceitacaoDe (c : Cabecalho) (r : Registro) : Frame :=
  quadroCifra (cabecalhoReply c r) (provaEsperada c r)
    (provaEsperada c r) []

/- The switch forwards what asks for it. -/
theorem tratar_repassar
    [DecidableEq ι]
    {registros : List Registro}
    (hArquivo : ArquivoValido registros)
    {rede : Estado ι}
    {frame saida : Frame}
    {port : BitVec 9}
    (hMem : frame ∈ rede.enviados)
    (hPedido :
      Tna.pedido frame = some (.repassar port saida)) :
    tratar (switch registros) rede (.comutacao frame) =
      some
        ({ rede with entregues := rede.entregues ++ [saida] },
          .resultado (some (.emitido port saida))) := by
  have hResult :
      processar (switch registros) 256 frame =
        some (.emitido port saida) := by
    unfold switch
    rw [processar_registros (by decide) hArquivo,
      especificacao, hPedido]
  have hPort := Tna.porta_of_repassar hPedido
  rw [tratar, if_pos hMem, hResult, Estado.emitir,
    if_neg hPort]

/- The switch accepts the Reply of a record in its file. -/
theorem tratar_reply
    [DecidableEq ι]
    {registros : List Registro}
    (hArquivo : ArquivoValido registros)
    {r : Registro}
    (hRegistro : r ∈ registros)
    {rede : Estado ι}
    (c : Cabecalho)
    (hMem : replyDe c r ∈ rede.enviados) :
    tratar (switch registros) rede (.comutacao (replyDe c r)) =
      some
        ({ rede with
            controlador :=
              rede.controlador ++ [aceitacaoDe c r] },
          .resultado
            (some (.emitido portaCPU (aceitacaoDe c r)))) := by
  have hResult :
      processar (switch registros) 256 (replyDe c r) =
        some (.emitido portaCPU (aceitacaoDe c r)) :=
    Optee.Service.processar_reply hArquivo hRegistro c
      (by decide)
  rw [tratar, if_pos hMem, hResult, Estado.emitir, if_pos rfl]

/- A provisioned service answers and is as it was. -/
theorem tratar_pedido
    [DecidableEq ι]
    {calls : List BfrtCall}
    {rede : Estado ι}
    {i : ι}
    {r : Registro}
    (hProvisionado : Provisionado (rede.hosts i) r)
    {c : Cabecalho}
    {pedido : Frame}
    {resto : List Byte}
    {amb : Optee.Service.Ambiente}
    {captura : Optee.Service.Captura}
    (hPopen : amb.popen = true)
    (hSocket : amb.socket = true)
    (hSendto : amb.sendto = true)
    (hHonesto : amb.processo.Honesto)
    (hMem : pedido ∈ rede.entregues)
    (hPrefix : pedido <+: captura.packet)
    (hPacket : captura.packet = quadroSemId c 0x1 resto) :
    tratar calls rede (.captura i pedido amb captura) =
      some
        (rede.avancar i (rede.hosts i)
            ⟨some (respostaEsperada c r), some (replyDe c r)⟩,
          .host
            ⟨some (respostaEsperada c r),
              some (replyDe c r)⟩) := by
  have hHost :=
    Optee.Service.tratar_pedido_provisionado hProvisionado
      hPopen hSocket hSendto hHonesto hPacket
  rw [tratar, if_pos ⟨hMem, hPrefix⟩, hHost]
  rfl

------------------------------------------------------------
-- A Round On The Network
------------------------------------------------------------

/- A service that holds the sample record. -/
def hostExemplo : Optee.Service.Estado where
  idDispositivoHex :=
    some (registroExemplo.idDispositivo.map Char.toLower)
  storage :=
    Optee.Service.gravados .empty
      (registroExemplo.chave.map Char.toLower)
      (registroExemplo.idDispositivo.map Char.toLower)
  filhos := []
  ativo := true

theorem provisionado_hostExemplo :
    Provisionado hostExemplo registroExemplo where
  ativo := rfl
  idGlobal := rfl
  key :=
    Optee.Service.gravados_key .empty
      (registroExemplo.chave.map Char.toLower)
      (registroExemplo.idDispositivo.map Char.toLower)
  disp :=
    Optee.Service.gravados_disp .empty
      (registroExemplo.chave.map Char.toLower)
      (registroExemplo.idDispositivo.map Char.toLower)
  secrets := by
    rw [List.map_append]
    exact
      Optee.Service.gravados_secrets .empty
        (registroExemplo.chave.map Char.toLower)
        (registroExemplo.idDispositivo.map Char.toLower)

/- One service, and no frame on its way. -/
def redeExemplo : Estado Unit where
  hosts := fun _ => hostExemplo
  enviados := []
  entregues := []
  controlador := []

/- The fields of a Start. -/
def startExemplo : Cabecalho where
  dstAddr := 0xffffffffffff
  srcAddr := 0x0800000000aa
  idRodada0 := 3
  idRodada1 := 4
  idRodada2 := 5
  idRodada3 := 6
  idDispositivo := 0

/- The Request of that Start, before memory that is zero. -/
def pedidoExemplo : Optee.Service.Captura where
  packet :=
    quadroSemId startExemplo 0x1 (List.replicate 79 0)
  length := by decide +kernel

/- A Start, its Request, the Reply and its verification. -/
def eventosExemplo : List (Evento Unit) :=
  [.envio (quadroSemId startExemplo 0x0 []),
    .comutacao (quadroSemId startExemplo 0x0 []),
    .captura () (quadroSemId startExemplo 0x1 [])
      Optee.Service.ambienteZero pedidoExemplo,
    .comutacao (replyDe startExemplo registroExemplo)]

theorem pedido_start
    (c : Cabecalho) :
    Tna.pedido (quadroSemId c 0x0 []) =
      some
        (.repassar portaCliente (quadroSemId c 0x1 [])) := by
  have hSemId : ¬ Tna.ComId 0x0 := by
    unfold Tna.ComId
    decide
  rw [Tna.pedido_semId c [] hSemId]
  rfl

/- The round is a run; its last step is the acceptance. -/
theorem exec_exemplo :
    ∃ last antes y,
      exec (tratar (switch [registroExemplo])) redeExemplo
            eventosExemplo =
          some (last, antes ++ [y]) ∧
        y.output =
          .resultado
            (some
              (.emitido portaCPU
                (aceitacaoDe startExemplo
                  registroExemplo))) := by
  let start := quadroSemId startExemplo 0x0 []
  let request := quadroSemId startExemplo 0x1 []
  let rede₁ : Estado Unit :=
    { redeExemplo with enviados := [start] }
  let rede₂ : Estado Unit := { rede₁ with entregues := [request] }
  let saida : Optee.Service.Saida :=
    ⟨some (respostaEsperada startExemplo registroExemplo),
      some (replyDe startExemplo registroExemplo)⟩
  have hEnvio :
      tratar (switch [registroExemplo]) redeExemplo
          (.envio start) =
        some (rede₁, .nada) := rfl
  have hStart :
      tratar (switch [registroExemplo]) rede₁
          (.comutacao start) =
        some
          (rede₂,
            .resultado (some (.emitido portaCliente request))) :=
    tratar_repassar arquivoValido_exemplo
      (List.mem_singleton_self _) (pedido_start startExemplo)
  have hPrefix : request <+: pedidoExemplo.packet :=
    ⟨List.replicate 79 0, by
      rw [Optee.Service.quadroSemId_append]
      rfl⟩
  let rede₃ := rede₂.avancar () hostExemplo saida
  have hPedido :
      tratar (switch [registroExemplo]) rede₂
          (.captura () request Optee.Service.ambienteZero
            pedidoExemplo) =
        some (rede₃, .host saida) :=
    tratar_pedido provisionado_hostExemplo rfl rfl rfl
      Optee.Service.honesto_processoZero
      (List.mem_singleton_self _) hPrefix rfl
  have hMem :
      replyDe startExemplo registroExemplo ∈ rede₃.enviados :=
    List.mem_append_right _ (List.mem_singleton_self _)
  have hReply :=
    tratar_reply arquivoValido_exemplo
      (List.mem_singleton_self registroExemplo) startExemplo
      hMem
  have hNone :
      exec (tratar (switch [registroExemplo])) redeExemplo [] =
        some (redeExemplo, []) := rfl
  have hRun :=
    exec_snoc
      (exec_snoc (exec_snoc (exec_snoc hNone hEnvio) hStart)
        hPedido)
      hReply
  exact ⟨_, _, _, hRun, rfl⟩

------------------------------------------------------------
-- Every Run
------------------------------------------------------------

/-
  The `i`-th service is not provisioned by this step, and its
  calls succeed.
-/
def Calmo
    (i : ι)
    (x : Step (Estado ι) (Evento ι) Saida) : Prop :=
  (∀ k escrita, x.event ≠ .gravacao i k escrita) ∧
    ∀ pedido amb captura,
      x.event = .captura i pedido amb captura →
        ¬ Optee.Service.Setup captura.packet ∧
          amb.popen = true ∧ amb.socket = true ∧
          amb.sendto = true ∧ amb.processo.Honesto

/- A Request is one up to the fields of a header. -/
theorem exists_quadroSemId_of_pedido
    {captura : Optee.Service.Captura}
    (hPedido : Optee.Service.Pedido captura.packet) :
    ∃ c resto, captura.packet = quadroSemId c 0x1 resto := by
  rcases hPedido with ⟨hType, hOper⟩
  have hLength := captura.length
  rcases exists_cabecalho
      (Optee.Service.length_etherDhost captura)
      (Optee.Service.length_etherShost captura)
      (Optee.Service.length_idRodada captura) with
    ⟨c, hDst, hSrc, hRodada⟩
  refine ⟨c, captura.packet.drop 31, ?_⟩
  rw [quadroSemId_eq, hDst, hSrc, hRodada, ← hType, ← hOper]
  have hSplit :
      ∀ (a n : Nat) (xs : List Byte),
        xs.drop a = slice a n xs ++ xs.drop (a + n) := by
    intro a n xs
    rw [slice, ← List.drop_drop, List.take_append_drop]
  have hAll := hSplit 0 6 captura.packet
  rw [hSplit 6 6, hSplit 12 2, hSplit 14 1, hSplit 15 16]
    at hAll
  exact hAll

/- No event of others changes what a service holds. -/
theorem provisionado_tratar
    [DecidableEq ι]
    {calls : List BfrtCall}
    {rede rede' : Estado ι}
    {history : List (Evento ι)}
    {evento : Evento ι}
    {saida : Saida}
    {i : ι}
    {r : Registro}
    (hProvisionado : Provisionado (rede.hosts i) r)
    (hTratar :
      tratar calls rede evento = some (rede', saida))
    (hCalmo : Calmo i ⟨history, rede, evento, saida⟩) :
    Provisionado (rede'.hosts i) r := by
  cases evento with
  | envio frame =>
      cases hTratar
      exact hProvisionado
  | comutacao frame =>
      rw [(tratar_comutacao hTratar).2.1, hosts_emitir]
      exact hProvisionado
  | gravacao j k escrita =>
      rcases tratar_gravacao hTratar with
        ⟨host, saidaHost, _, hRede, _⟩
      have hOther : i ≠ j := by
        intro hSame
        subst hSame
        exact hCalmo.1 k escrita rfl
      rw [hRede, hosts_avancar, Function.update_of_ne hOther]
      exact hProvisionado
  | captura j pedido amb captura =>
      rcases tratar_captura hTratar with
        ⟨_, _, host, saidaHost, hHost, hRede, _⟩
      rw [hRede, hosts_avancar]
      by_cases hOther : i = j
      · subst hOther
        rw [Function.update_self]
        rcases hCalmo.2 pedido amb captura rfl with
          ⟨hSetup, hPopen, hSocket, hSendto, hHonesto⟩
        rcases Optee.Service.tratar_captura_cases hHost with
          ⟨_, _, hSame, _⟩ | ⟨hIs, _⟩ | ⟨hPedido, _⟩
        · rw [hSame]
          exact hProvisionado
        · exact absurd hIs hSetup
        · rcases exists_quadroSemId_of_pedido hPedido with
            ⟨c, resto, hPacket⟩
          rw [Optee.Service.tratar_pedido_provisionado
            hProvisionado hPopen hSocket hSendto hHonesto
            hPacket] at hHost
          cases hHost
          exact hProvisionado
      · rw [Function.update_of_ne hOther]
        exact hProvisionado

/-
  Whatever else happens, a provisioned service answers every
  Request with the Reply that the switch accepts, and every
  time that the switch takes it the controller gets it.
-/
theorem reply_aceito
    [DecidableEq ι]
    {registros : List Registro}
    (hArquivo : ArquivoValido registros)
    {r : Registro}
    (hRegistro : r ∈ registros)
    {rede last : Estado ι}
    {i : ι}
    (hProvisionado : Provisionado (rede.hosts i) r)
    {eventos : List (Evento ι)}
    {steps : List (Step (Estado ι) (Evento ι) Saida)}
    (hRun :
      exec (tratar (switch registros)) rede eventos =
        some (last, steps))
    (hCalmo : ∀ x ∈ steps, Calmo i x) :
    Provisionado (last.hosts i) r ∧
      ∀ y ∈ steps, ∀ pedido amb captura c resto,
        y.event = .captura i pedido amb captura →
        captura.packet = quadroSemId c 0x1 resto →
        y.output =
            .host
              ⟨some (respostaEsperada c r),
                some (replyDe c r)⟩ ∧
          ∀ z ∈ steps,
            z.event = .comutacao (replyDe c r) →
            z.output =
              .resultado
                (some
                  (.emitido portaCPU (aceitacaoDe c r))) := by
  let Aceita :=
    fun (y : Step (Estado ι) (Evento ι) Saida) =>
      (∀ pedido amb captura c resto,
        y.event = .captura i pedido amb captura →
        captura.packet = quadroSemId c 0x1 resto →
        y.output =
          .host
            ⟨some (respostaEsperada c r),
              some (replyDe c r)⟩) ∧
        ∀ c,
          y.event = .comutacao (replyDe c r) →
          y.output =
            .resultado
              (some (.emitido portaCPU (aceitacaoDe c r)))
  have hStep :
      ∀ history rede evento rede' saida,
        Provisionado (rede.hosts i) r →
          tratar (switch registros) rede evento =
            some (rede', saida) →
          Calmo i ⟨history, rede, evento, saida⟩ →
          Provisionado (rede'.hosts i) r ∧
            Aceita ⟨history, rede, evento, saida⟩ := by
    intro history rede evento rede' saida hProv hTratar hC
    refine
      ⟨provisionado_tratar hProv hTratar hC, ?_, ?_⟩
    · intro pedido amb captura c resto hEvent hPacket
      subst hEvent
      rcases tratar_captura hTratar with
        ⟨hMem, hPrefix, _⟩
      rcases hC.2 pedido amb captura rfl with
        ⟨_, hPopen, hSocket, hSendto, hHonesto⟩
      rw [tratar_pedido hProv hPopen hSocket hSendto hHonesto
        hMem hPrefix hPacket] at hTratar
      cases hTratar
      rfl
    · intro c hEvent
      subst hEvent
      have hMem := (tratar_comutacao hTratar).1
      rw [tratar_reply hArquivo hRegistro c hMem] at hTratar
      cases hTratar
      rfl
  have hAll :
      Provisionado (last.hosts i) r ∧ ∀ y ∈ steps, Aceita y :=
    @Transition.exec_invariant _ _ _
      (fun _ rede => Provisionado (rede.hosts i) r) (Calmo i)
      Aceita _ hStep _ _ _ _ hProvisionado hRun hCalmo
  refine ⟨hAll.1, ?_⟩
  intro y hy pedido amb captura c resto hEvent hPacket
  refine
    ⟨(hAll.2 y hy).1 pedido amb captura c resto hEvent
      hPacket, ?_⟩
  intro z hz hComutacao
  exact (hAll.2 z hz).2 c hComutacao

/- The sample round with its service left alone. -/
theorem reply_aceito_exemplo :
    ∃ last steps,
      exec (tratar (switch [registroExemplo])) redeExemplo
            eventosExemplo =
          some (last, steps) ∧
        Provisionado (last.hosts ()) registroExemplo := by
  rcases exec_exemplo with ⟨last, antes, y, hRun, _⟩
  refine ⟨last, antes ++ [y], hRun, ?_⟩
  have hCalmo : ∀ x ∈ antes ++ [y], Calmo () x := by
    intro x hx
    have hEvent := Transition.event_mem_of_exec hRun x hx
    have hNotSetup :
        ¬ Optee.Service.Setup pedidoExemplo.packet := by
      decide +kernel
    constructor
    · intro k escrita hSame
      rw [hSame] at hEvent
      simp [eventosExemplo] at hEvent
    · intro pedido amb captura hSame
      rw [hSame] at hEvent
      have hFields :
          pedido = quadroSemId startExemplo 0x1 [] ∧
            amb = Optee.Service.ambienteZero ∧
            captura = pedidoExemplo := by
        simpa [eventosExemplo] using hEvent
      rw [hFields.2.1, hFields.2.2]
      exact ⟨hNotSetup, rfl, rfl, rfl,
        Optee.Service.honesto_processoZero⟩
  exact
    (reply_aceito arquivoValido_exemplo
      (List.mem_singleton_self registroExemplo)
      provisionado_hostExemplo hRun hCalmo).1

end Rede

end P4dra
