import P4dra.Optee.Answers
import P4dra.Optee.Handler

/-
  Replies of the service and the answers behind them.

  A Reply is sent for every Request after the first Setup
  while `popen`, `socket` and `sendto` succeed, whatever the
  trusted application answered. In a run every Reply carries
  the proof of a successful answer exactly when for each of
  these Requests the secrets are there and are read.

  Main declarations:
    * `Respondido`, `tratar_of_respondido`
    * `estado_of_tratar`, `globalValido_exec`
    * `ProvaOuNada`, `PedidoComProva`, `provaOuNada_iff`
-/

------------------------------------------------------------
-- Sent Replies
------------------------------------------------------------

namespace P4dra

open Bytes (Byte slice swapWords)
open Tna (Frame)
open Tools
open Transition (Step exec)

namespace Optee

namespace Service

/- The service sends something for a captured frame. -/
structure Respondido
    (amb : Ambiente)
    (estado : Estado)
    (captura : Captura) : Prop where
  pedido : Pedido captura.packet
  popen : amb.popen = true
  socket : amb.socket = true
  sendto : amb.sendto = true
  global : estado.idDispositivoHex.isSome = true

/- The line that the service reads after an answer. -/
def linhaLida
    (amb : Ambiente)
    (resposta : Option Ta.Resposta) : List Char :=
  getline amb.heap (saidaDe amb.processo resposta)

theorem aposProcesso_reply
    {amb : Ambiente}
    {estado estado' : Estado}
    {captura : Captura}
    {resposta : Option Ta.Resposta}
    {saida : Saida}
    {id : List Byte}
    (hLength : id.length = 16)
    (hHex : estado.idDispositivoHex =
      some (digitosTrocados id))
    (hApos :
      aposProcesso amb estado captura resposta =
        some (estado', saida)) :
    saida.resposta = resposta ∧
      saida.reply =
        if amb.socket ∧ amb.sendto then
          some
            (respostaCom captura id (linhaLida amb resposta))
        else
          none := by
  have hFrame :=
    enviaPacoteResposta_eq captura hLength
      (linhaLida amb resposta)
  rw [linhaLida] at hFrame
  rw [aposProcesso, hHex] at hApos
  simp only [hFrame, Option.bind_some] at hApos
  cases hSent : amb.socket && amb.sendto with
  | false =>
      have hNot : ¬ (amb.socket = true ∧ amb.sendto = true) := by
        intro hBoth
        rw [hBoth.1, hBoth.2] at hSent
        cases hSent
      rw [hSent] at hApos
      cases hApos
      exact ⟨rfl, (if_neg hNot).symm⟩
  | true =>
      have hBoth : amb.socket = true ∧ amb.sendto = true := by
        simpa using hSent
      rw [hSent] at hApos
      cases hApos
      exact ⟨rfl, (if_pos hBoth).symm⟩

/- What a captured frame can do. -/
theorem tratar_captura_cases
    {amb : Ambiente}
    {estado estado' : Estado}
    {captura : Captura}
    {saida : Saida}
    (hTratar :
      tratar estado (.captura amb captura) =
        some (estado', saida)) :
    (¬ Pedido captura.packet ∧ ¬ Setup captura.packet ∧
        estado' = estado ∧ saida = .nada) ∨
      (Setup captura.packet ∧ ¬ Pedido captura.packet ∧
        tratarSetup amb estado captura.packet =
          some (estado', saida)) ∨
      (Pedido captura.packet ∧ ¬ Setup captura.packet ∧
        tratarPedido amb estado captura.packet =
          some (estado', saida)) := by
  cases hAtivo : estado.ativo with
  | false =>
      rw [tratar, hAtivo] at hTratar
      cases hTratar
  | true =>
      rw [tratar, hAtivo, if_pos rfl, packetHandler] at hTratar
      by_cases hType : etherType captura.packet = etherTypeCustom
      · rw [if_pos hType] at hTratar
        by_cases hPedido : operHdrOper captura.packet = [0x1]
        · rw [if_pos hPedido] at hTratar
          have hNotSetup : ¬ Setup captura.packet := by
            rintro ⟨_, hOper⟩
            rw [hPedido] at hOper
            cases hOper
          exact
            Or.inr (Or.inr ⟨⟨hType, hPedido⟩, hNotSetup, hTratar⟩)
        · rw [if_neg hPedido] at hTratar
          have hNotPedido : ¬ Pedido captura.packet :=
            fun hBoth => hPedido hBoth.2
          by_cases hSetup : operHdrOper captura.packet = [0x5]
          · rw [if_pos hSetup] at hTratar
            exact
              Or.inr
                (Or.inl ⟨⟨hType, hSetup⟩, hNotPedido, hTratar⟩)
          · rw [if_neg hSetup] at hTratar
            cases hTratar
            exact
              Or.inl
                ⟨hNotPedido, fun hBoth => hSetup hBoth.2, rfl,
                  rfl⟩
      · rw [if_neg hType] at hTratar
        cases hTratar
        exact
          Or.inl
            ⟨fun hBoth => hType hBoth.1,
              fun hBoth => hType hBoth.1, rfl, rfl⟩

/- A Request is answered by the trusted application first. -/
theorem tratarPedido_cases
    {amb : Ambiente}
    {estado estado' : Estado}
    {captura : Captura}
    {saida : Saida}
    (hTratar :
      tratarPedido amb estado captura.packet =
        some (estado', saida)) :
    (amb.popen = false ∧ saida = .nada ∧
        estado' = { estado with ativo := false }) ∨
      (amb.popen = true ∧
        ∃ resposta,
          respostaTa amb.processo estado.storage
              (idRodadaDe captura) =
            .ok resposta ∧
          aposProcesso amb estado captura resposta =
            some (estado', saida)) := by
  rw [tratarPedido_eq] at hTratar
  cases hPopen : amb.popen with
  | false =>
      rw [hPopen] at hTratar
      cases hTratar
      exact Or.inl ⟨rfl, rfl, rfl⟩
  | true =>
      rw [hPopen, if_pos rfl] at hTratar
      cases hResposta :
          respostaTa amb.processo estado.storage
            (idRodadaDe captura) with
      | error estouro =>
          rw [hResposta] at hTratar
          cases hTratar
      | ok resposta =>
          rw [hResposta] at hTratar
          exact Or.inr ⟨rfl, resposta, rfl, hTratar⟩

/-
  A Reply is sent exactly when the frame is one that is
  responded, and it carries the fields of the Request, the
  global, and the line that was printed.
-/
theorem reply_of_tratar
    {amb : Ambiente}
    {estado estado' : Estado}
    {captura : Captura}
    {saida : Saida}
    (hGlobal : GlobalValido estado)
    (hTratar :
      tratar estado (.captura amb captura) =
        some (estado', saida)) :
    (saida.reply.isSome ↔ Respondido amb estado captura) ∧
      ∀ frame, saida.reply = some frame →
        ∃ id : List Byte, id.length = 16 ∧
          estado.idDispositivoHex =
            some (digitosTrocados id) ∧
          respostaTa amb.processo estado.storage
              (idRodadaDe captura) =
            .ok saida.resposta ∧
          frame =
            respostaCom captura id
              (linhaLida amb saida.resposta) := by
  have hNada : ∀ {P : Frame → Prop},
      ¬ Respondido amb estado captura → saida.reply = none →
        (saida.reply.isSome ↔
            Respondido amb estado captura) ∧
          ∀ frame, saida.reply = some frame → P frame := by
    intro P hNot hReply
    rw [hReply]
    constructor
    · constructor
      · intro hSome
        cases hSome
      · intro hRespondido
        exact absurd hRespondido hNot
    · intro frame hFrame
      cases hFrame
  rcases tratar_captura_cases hTratar with
    ⟨hNot, _, _, hSaida⟩ | ⟨_, hNot, hSetup⟩ |
      ⟨hPedido, _, hPedir⟩
  · exact hNada (fun h => hNot h.pedido) (by rw [hSaida]; rfl)
  · rw [tratarSetup_eq] at hSetup
    cases hSetup
    exact hNada (fun h => hNot h.pedido) rfl
  · rcases tratarPedido_cases hPedir with
      ⟨hPopen, hSaida, _⟩ | ⟨hPopen, resposta, hResposta, hApos⟩
    · apply hNada
      · intro h
        rw [h.popen] at hPopen
        cases hPopen
      · rw [hSaida]
        rfl
    · cases hHex : estado.idDispositivoHex with
      | none =>
          rw [aposProcesso, hHex] at hApos
          cases hApos
          apply hNada
          · intro h
            have hSome := h.global
            rw [hHex] at hSome
            cases hSome
          · rfl
      | some hex =>
          rcases hGlobal hex hHex with ⟨id, hLength, hDigits⟩
          subst hDigits
          rcases aposProcesso_reply hLength hHex hApos with
            ⟨hAnswer, hReply⟩
          by_cases hSent :
              amb.socket = true ∧ amb.sendto = true
          · rw [if_pos hSent] at hReply
            rw [hReply]
            constructor
            · refine ⟨fun _ => ?_, fun _ => rfl⟩
              exact
                ⟨hPedido, hPopen, hSent.1, hSent.2,
                  by rw [hHex]; rfl⟩
            · intro frame hFrame
              rw [hAnswer]
              exact
                ⟨id, hLength, rfl, hResposta,
                  (Option.some.inj hFrame).symm⟩
          · rw [if_neg hSent] at hReply
            exact hNada (fun h => hSent ⟨h.socket, h.sendto⟩)
              hReply

------------------------------------------------------------
-- Fields Of A Reply
------------------------------------------------------------

theorem length_etherShost
    (captura : Captura) :
    (etherShost captura.packet).length = 6 := by
  have hLength := captura.length
  exact Bytes.length_slice (by omega)

theorem length_etherDhost
    (captura : Captura) :
    (etherDhost captura.packet).length = 6 := by
  have hLength := captura.length
  exact Bytes.length_slice (by omega)

theorem length_provaDaLinha
    (provaHex : List Char) :
    (provaDaLinha provaHex).length = 64 := by
  exact length_bytesDeDigitos _ _

/- The front of a Reply, up to its identifier. -/
theorem length_beforeId
    (captura : Captura) :
    (etherShost captura.packet ++ etherDhost captura.packet ++
        etherTypeCustom ++ [(0x2 : Byte)] ++
        operHdrIdRodada captura.packet).length = 31 := by
  simp only [List.length_append, length_etherShost,
    length_etherDhost, length_idRodada, etherTypeCustom,
    List.length_cons, List.length_nil]

theorem respostaCom_eq
    (captura : Captura)
    (id : List Byte)
    (provaHex : List Char) :
    respostaCom captura id provaHex =
      (etherShost captura.packet ++
            etherDhost captura.packet ++ etherTypeCustom ++
            [0x2] ++ operHdrIdRodada captura.packet) ++
        (id ++ (provaDaLinha provaHex ++ [])) := by
  rw [respostaCom, createCustomPacket]
  simp only [List.append_assoc, List.append_nil]

theorem replyIdDispositivo_respostaCom
    (captura : Captura)
    {id : List Byte}
    (hLength : id.length = 16)
    (provaHex : List Char) :
    replyIdDispositivo (respostaCom captura id provaHex) =
      id := by
  rw [respostaCom_eq]
  exact Bytes.slice_middle _ (length_beforeId captura) hLength

theorem replyProva_respostaCom
    (captura : Captura)
    {id : List Byte}
    (hLength : id.length = 16)
    (provaHex : List Char) :
    replyProva (respostaCom captura id provaHex) =
      provaDaLinha provaHex := by
  rw [respostaCom_eq, ← List.append_assoc]
  refine Bytes.slice_middle _ ?_ (length_provaDaLinha _)
  rw [List.length_append, length_beforeId, hLength]

/- The digits of a proof, read from the pipe and converted. -/
theorem provaDaLinha_getline
    {prova : List Byte}
    (heap : List Char)
    (hLength : prova.length = 64) :
    provaDaLinha (getline heap (Hex.encode prova)) =
      swapWords prova := by
  have hDigits : (Hex.encode prova).length = 128 := by
    rw [Hex.length_encode, hLength]
  have hNonempty : Hex.encode prova ≠ [] := by
    intro hNil
    rw [hNil] at hDigits
    cases hDigits
  rcases getline_of_isHex heap (Hex.isHex_encode prova)
      hNonempty with
    ⟨resto, hLinha⟩
  have hSwap :
      swapEndian (getline heap (Hex.encode prova)) provaLen =
        digitosTrocados prova ++ '\x00' :: resto := by
    rw [hLinha]
    exact swapEndian_append _ hDigits
  have hSize : (digitosTrocados prova).length = 2 * 64 := by
    rw [length_digitosTrocados, hLength]
  have hFour : prova.length = 4 * 16 := hLength
  rw [provaDaLinha, hSwap,
    bytesDeDigitos_of_isHex (isHex_digitosTrocados prova) hSize,
    decode_digitosTrocados hFour]

------------------------------------------------------------
-- State After A Frame
------------------------------------------------------------

theorem aposProcesso_estado
    {amb : Ambiente}
    {estado estado' : Estado}
    {captura : Captura}
    {resposta : Option Ta.Resposta}
    {saida : Saida}
    (hApos :
      aposProcesso amb estado captura resposta =
        some (estado', saida)) :
    estado'.storage = estado.storage ∧
      estado'.idDispositivoHex = estado.idDispositivoHex ∧
      estado'.filhos = estado.filhos := by
  unfold aposProcesso at hApos
  cases hHex : estado.idDispositivoHex with
  | none =>
      rw [hHex] at hApos
      cases hApos
      exact ⟨rfl, rfl, rfl⟩
  | some hex =>
      simp only [hHex] at hApos
      rcases Option.bind_eq_some_iff.mp hApos with
        ⟨frame, _, hSent⟩
      split at hSent
      · cases hSent
        exact ⟨rfl, hHex, rfl⟩
      · cases hSent
        exact ⟨rfl, rfl, rfl⟩

/- The processes that a Setup adds. -/
def filhosDoSetup
    (amb : Ambiente)
    (captura : Captura) : List (List Host.Gravacao) :=
  if amb.popen then
    [if amb.processo.sessaoAberta then
      Host.gravacoes (chaveDoSetup captura) (idDoSetup captura)
    else
      []]
  else
    []

/-
  A frame does not change what is stored. Only a Setup changes
  the global and adds a process.
-/
theorem estado_of_tratar
    {amb : Ambiente}
    {estado estado' : Estado}
    {captura : Captura}
    {saida : Saida}
    (hTratar :
      tratar estado (.captura amb captura) =
        some (estado', saida)) :
    estado'.storage = estado.storage ∧
      (Setup captura.packet →
        estado'.idDispositivoHex = some (idDoSetup captura) ∧
          estado'.filhos =
            estado.filhos ++ filhosDoSetup amb captura) ∧
      (¬ Setup captura.packet →
        estado'.idDispositivoHex = estado.idDispositivoHex ∧
          estado'.filhos = estado.filhos) := by
  rcases tratar_captura_cases hTratar with
    ⟨_, hNot, hEstado, _⟩ | ⟨hIs, _, hSetup⟩ |
      ⟨_, hNot, hPedir⟩
  · rw [hEstado]
    exact ⟨rfl, fun h => absurd h hNot, fun _ => ⟨rfl, rfl⟩⟩
  · rw [tratarSetup_eq] at hSetup
    cases hPopen : amb.popen with
    | false =>
        rw [hPopen] at hSetup
        cases hSetup
        refine ⟨rfl, fun _ => ⟨rfl, ?_⟩, fun h => absurd hIs h⟩
        simp [filhosDoSetup, hPopen]
    | true =>
        rw [hPopen] at hSetup
        cases hSetup
        refine ⟨rfl, fun _ => ⟨rfl, ?_⟩, fun h => absurd hIs h⟩
        simp [filhosDoSetup, hPopen]
  · rcases tratarPedido_cases hPedir with
      ⟨_, _, hEstado⟩ | ⟨_, resposta, _, hApos⟩
    · rw [hEstado]
      exact ⟨rfl, fun h => absurd h hNot, fun _ => ⟨rfl, rfl⟩⟩
    · rcases aposProcesso_estado hApos with
        ⟨hStorage, hGlobal, hFilhos⟩
      exact
        ⟨hStorage, fun h => absurd h hNot,
          fun _ => ⟨hGlobal, hFilhos⟩⟩

/- A write of a process. -/
theorem tratar_gravacao
    {estado estado' : Estado}
    {i : Nat}
    {escrita : Host.Escrita}
    {saida : Saida}
    (hTratar :
      tratar estado (.gravacao i escrita) =
        some (estado', saida)) :
    saida = .nada ∧
      ∃ pendentes storage resto,
        estado.filhos[i]? = some pendentes ∧
          Host.proximaGravacao escrita estado.storage
              pendentes =
            some (storage, resto) ∧
          estado' =
            { estado with
              storage := storage
              filhos := estado.filhos.set i resto } := by
  rw [tratar] at hTratar
  cases hFilho : estado.filhos[i]? with
  | none =>
      rw [hFilho] at hTratar
      cases hTratar
  | some pendentes =>
      simp only [hFilho] at hTratar
      cases hProxima :
          Host.proximaGravacao escrita estado.storage
            pendentes with
      | none =>
          rw [hProxima] at hTratar
          cases hTratar
      | some result =>
          rcases result with ⟨storage, resto⟩
          rw [hProxima] at hTratar
          cases hTratar
          exact ⟨rfl, pendentes, storage, resto, rfl, hProxima, rfl⟩

theorem globalValido_tratar
    {estado estado' : Estado}
    {evento : Evento}
    {saida : Saida}
    (hGlobal : GlobalValido estado)
    (hTratar : tratar estado evento = some (estado', saida)) :
    GlobalValido estado' := by
  cases evento with
  | captura amb captura =>
      rcases estado_of_tratar hTratar with
        ⟨_, hSetup, hOther⟩
      by_cases hIs : Setup captura.packet
      · intro hex hHex
        rw [(hSetup hIs).1] at hHex
        exact
          ⟨_, length_setupIdDispositivo captura,
            (Option.some.inj hHex).symm⟩
      · intro hex hHex
        rw [(hOther hIs).1] at hHex
        exact hGlobal hex hHex
  | gravacao i escrita =>
      rcases tratar_gravacao hTratar with
        ⟨_, _, _, _, _, _, hEstado⟩
      intro hex hHex
      rw [hEstado] at hHex
      exact hGlobal hex hHex

theorem globalValido_inicial
    (storage : Storage) :
    GlobalValido (estadoInicial storage) := by
  intro hex hHex
  cases hHex

------------------------------------------------------------
-- A Proof Or Nothing
------------------------------------------------------------

/-
  What is sent comes with a successful answer, and its proof
  field is the proof of that answer with swapped words.
-/
def ProvaOuNada (x : Step Estado Evento Saida) : Prop :=
  ∀ frame, x.output.reply = some frame →
    ∃ prova : List Byte,
      x.output.resposta = some ⟨teeSuccess, some prova⟩ ∧
        prova.length = 64 ∧
        replyProva frame = swapWords prova

/- The secrets are read for a frame that is responded. -/
def PedidoComProva (x : Step Estado Evento Saida) : Prop :=
  ∀ amb captura, x.event = .captura amb captura →
    Respondido amb x.before captura →
      Host.ProvaDisponivel amb.processo x.before.storage

/- Answers with a proof, in terms of what the process meets. -/
theorem respostaTa_prova_iff
    {amb : Host.Ambiente}
    {storage : Storage}
    {idRodadaHex : List Char}
    {resposta : Option Ta.Resposta}
    (hResposta :
      respostaTa amb storage idRodadaHex = .ok resposta) :
    ((∃ res prova, resposta = some ⟨res, some prova⟩) ↔
        Host.ProvaDisponivel amb storage) ∧
      ∀ res prova, resposta = some ⟨res, some prova⟩ →
        res = teeSuccess ∧ prova.length = 64 := by
  unfold respostaTa at hResposta
  cases hSessao : amb.sessaoAberta with
  | false =>
      rw [hSessao] at hResposta
      cases hResposta
      constructor
      · constructor
        · rintro ⟨res, prova, hEq⟩
          cases hEq
        · intro hDisponivel
          have hOpen := hDisponivel.sessao
          rw [hSessao] at hOpen
          cases hOpen
      · intro res prova hEq
        cases hEq
  | true =>
      rw [hSessao, if_pos rfl] at hResposta
      cases hPedir :
          Host.requestProof amb storage
            (slice 0 nonceLen idRodadaHex ++ amb.aposIdRodada)
            (slice nonceLen nonceLen idRodadaHex ++
              amb.aposNonce) with
      | error estouro =>
          rw [hPedir] at hResposta
          cases hResposta
      | ok lida =>
          rw [hPedir] at hResposta
          cases hResposta
          rcases Host.prova_iff hPedir with ⟨hIff, hValues⟩
          constructor
          · constructor
            · rintro ⟨res, prova, hEq⟩
              rcases hIff.mp ⟨res, prova, Option.some.inj hEq⟩
                with ⟨hInvoke, hLegivel⟩
              exact ⟨hSessao, hInvoke, hLegivel⟩
            · intro hDisponivel
              rcases hIff.mpr
                  ⟨hDisponivel.invoke, hDisponivel.legivel⟩ with
                ⟨res, prova, hEq⟩
              exact ⟨res, prova, congrArg some hEq⟩
          · intro res prova hEq
            exact hValues res prova (Option.some.inj hEq)

/- One frame. -/
theorem provaOuNada_of_tratar
    {history : List Evento}
    {estado estado' : Estado}
    {evento : Evento}
    {saida : Saida}
    (hGlobal : GlobalValido estado)
    (hTratar : tratar estado evento = some (estado', saida)) :
    ProvaOuNada ⟨history, estado, evento, saida⟩ ↔
      PedidoComProva ⟨history, estado, evento, saida⟩ := by
  cases evento with
  | gravacao i escrita =>
      have hNada := (tratar_gravacao hTratar).1
      constructor
      · intro _ amb captura hEvent
        cases hEvent
      · intro _ frame hFrame
        rw [hNada] at hFrame
        cases hFrame
  | captura amb captura =>
      rcases reply_of_tratar hGlobal hTratar with
        ⟨hSent, hReply⟩
      constructor
      · intro hProva amb' captura' hEvent hRespondido
        cases hEvent
        rcases Option.isSome_iff_exists.mp
            (hSent.mpr hRespondido) with
          ⟨frame, hFrame⟩
        rcases hReply frame hFrame with
          ⟨id, _, _, hResposta, _⟩
        rcases hProva frame hFrame with ⟨prova, hAnswer, _⟩
        exact (respostaTa_prova_iff hResposta).1.mp
          ⟨_, prova, hAnswer⟩
      · intro hPedido frame hFrame
        have hRespondido :=
          hSent.mp (Option.isSome_iff_exists.mpr ⟨frame, hFrame⟩)
        rcases hReply frame hFrame with
          ⟨id, hLength, _, hResposta, hFrameEq⟩
        have hDisponivel :=
          hPedido amb captura rfl hRespondido
        rcases respostaTa_prova_iff hResposta with
          ⟨hIff, hValues⟩
        rcases hIff.mpr hDisponivel with ⟨res, prova, hAnswer⟩
        rcases hValues res prova hAnswer with ⟨hRes, hSize⟩
        subst hRes
        refine ⟨prova, hAnswer, hSize, ?_⟩
        -- success prints the digits of the proof alone
        have hLinha :
            linhaLida amb (some ⟨teeSuccess, some prova⟩) =
              getline amb.heap (Hex.encode prova) := rfl
        have hField := replyProva_respostaCom captura hLength
          (linhaLida amb saida.resposta)
        have hAnswer' :
            saida.resposta = some ⟨teeSuccess, some prova⟩ :=
          hAnswer
        rw [hFrameEq, hField, hAnswer', hLinha,
          provaDaLinha_getline _ hSize]

/-
  In every run of the service every Reply carries the proof
  that the trusted application returned with success, exactly
  when for every frame that is responded the secrets are read.
-/
theorem provaOuNada_iff
    (storage : Storage)
    {eventos : List Evento}
    {last : Estado}
    {steps : List (Step Estado Evento Saida)}
    (hRun :
      exec tratar (estadoInicial storage) eventos =
        some (last, steps)) :
    (∀ x ∈ steps, ProvaOuNada x) ↔
      ∀ x ∈ steps, PedidoComProva x := by
  have hStep :
      ∀ (history : List Evento) (s : Estado) (e : Evento)
          (s' : Estado) (output : Saida),
        GlobalValido s →
          tratar s e = some (s', output) →
          True →
          GlobalValido s' ∧
            (ProvaOuNada ⟨history, s, e, output⟩ ↔
              PedidoComProva ⟨history, s, e, output⟩) :=
    fun history s e s' output hGlobal hTratar _ =>
      ⟨globalValido_tratar hGlobal hTratar,
        provaOuNada_of_tratar hGlobal hTratar⟩
  have hEach :=
    (@Transition.exec_invariant _ _ _
      (fun _ s => GlobalValido s) (fun _ => True)
      (fun x => ProvaOuNada x ↔ PedidoComProva x) _ hStep _ _ _
      _ (globalValido_inicial storage) hRun
      (fun _ _ => trivial)).2
  constructor
  · intro hProva x hx
    exact (hEach x hx).mp (hProva x hx)
  · intro hPedido x hx
    exact (hEach x hx).mpr (hPedido x hx)

------------------------------------------------------------
-- A Request Before The Secrets
------------------------------------------------------------

/- A Setup of a device, with a key and an identifier. -/
def capturaSetup (chave id : Byte) : Captura where
  packet :=
    List.replicate 12 0 ++ etherTypeCustom ++ [0x5] ++
      List.replicate 16 0 ++ List.replicate 32 chave ++
      List.replicate 16 id
  length := by simp [etherTypeCustom]

/- A Request, before memory that is zero. -/
def capturaPedido : Captura where
  packet :=
    List.replicate 12 0 ++ etherTypeCustom ++ [0x1] ++
      List.replicate 16 7 ++ List.replicate 48 0
  length := by simp [etherTypeCustom]

/- Every call succeeds, in memory of zeros. -/
def processoZero : Host.Ambiente where
  initializeContext := teeSuccess
  openSession := teeSuccess
  invoke := none
  origin := 0
  tee :=
    { objIdAlocado := true
      dataAlocado := true
      openPersistentObject := teeSuccess
      getObjectInfo1 := teeSuccess
      readObjectData := teeSuccess
      readBytes := secretsSzHex }
  ta :=
    { input := Vector.replicate 16 0
      aposChaveHex := ['\x00']
      aposIdDispositivoHex := ['\x00'] }
  prova := Vector.replicate 64 0
  aposIdRodada := ['\x00']
  aposNonce := ['\x00']
  aposParam0 := ['\x00']
  aposParam1 := ['\x00']
  ambiente := []

def ambienteZero : Ambiente where
  popen := true
  socket := true
  sendto := true
  processo := processoZero
  heap := []

/- The Request comes before the process has written. -/
def eventosAdiantados : List Evento :=
  [.captura ambienteZero (capturaSetup 1 2),
    .captura ambienteZero capturaPedido]

theorem saidas_eventosAdiantados :
    (exec tratar (estadoInicial .empty) eventosAdiantados).map
        (fun run => run.2.map Step.output) =
      some
        [.nada,
          ⟨some ⟨teeErrorItemNotFound, none⟩,
            some
              (respostaCom capturaPedido (List.replicate 16 2)
                (List.replicate 128 '0'))⟩] := by
  decide +kernel

/- A Reply is sent for a Request that the application fails. -/
theorem provaOuNada_not_every_run :
    ¬ ∀ (storage : Storage) (eventos : List Evento)
        (last : Estado)
        (steps : List (Step Estado Evento Saida)),
      exec tratar (estadoInicial storage) eventos =
          some (last, steps) →
        ∀ x ∈ steps, ProvaOuNada x := by
  intro hClaim
  rcases Option.map_eq_some_iff.mp saidas_eventosAdiantados with
    ⟨⟨last, steps⟩, hRun, hOutputs⟩
  have hMem :
      (⟨some ⟨teeErrorItemNotFound, none⟩,
          some
            (respostaCom capturaPedido (List.replicate 16 2)
              (List.replicate 128 '0'))⟩ : Saida) ∈
        steps.map Step.output := by
    have hSteps : steps.map Step.output = _ := hOutputs
    rw [hSteps]
    exact List.mem_cons_of_mem _ List.mem_cons_self
  rcases List.mem_map.mp hMem with ⟨x, hx, hOutput⟩
  rcases hClaim .empty eventosAdiantados last steps hRun x hx _
      (by rw [hOutput]) with
    ⟨prova, hResposta, _⟩
  rw [hOutput] at hResposta
  cases hResposta

theorem provaOuNada_iff_adiantados :
    ∃ last steps,
      exec tratar (estadoInicial .empty) eventosAdiantados =
          some (last, steps) ∧
        ((∀ x ∈ steps, ProvaOuNada x) ↔
          ∀ x ∈ steps, PedidoComProva x) := by
  rcases Option.map_eq_some_iff.mp saidas_eventosAdiantados with
    ⟨⟨last, steps⟩, hRun, _⟩
  exact ⟨last, steps, hRun, provaOuNada_iff .empty hRun⟩

end Service

end Optee

end P4dra
