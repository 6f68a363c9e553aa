import P4dra.Optee.Replies
import P4dra.Optee.Writes

/-
  Setups, their processes, and the identifier of a Reply.

  A log of what happened tells which Setup was handled last,
  and which one wrote the secrets last: every state that a
  run reaches is the one that the log describes. A Reply has
  the identifier of the first; its proof was computed with
  the identifier of the second.

  Main declarations:
    * `Diario`, `diario`
    * `Descreve`, `descreve_tratar`
    * `Consistente`, `SetupGravado`, `consistente_iff`
-/

------------------------------------------------------------
-- Log
------------------------------------------------------------

namespace P4dra

open Bytes (Byte slice swapWords)
open Tna (Frame)
open Tools
open Transition (Step exec)

namespace Optee

open Host (sucede interrompe proximaGravacao_cons)

namespace Service

/- The identifier in the secrets, as it lies in a frame. -/
def idDosSecrets (secretsHex : List Char) : List Byte :=
  swapWords
    (Hex.decode (slice keySzHex idDispositivoSzHex secretsHex))

/- The same of secrets of which only a part was written. -/
def idDaParte (escritos : Nat) (id : List Byte) : List Byte :=
  swapWords
    (Hex.decode
      ((digitosTrocados id).take (escritos - keySzHex)))

/-
  The identifier of every Setup and the number of objects that
  its process has still to write, the identifier of the last
  Setup, and the one that was last written to the secrets.
-/
structure Diario where
  filhos : List (List Byte × Nat)
  ultimo : Option (List Byte)
  gravado : Option (List Byte)

/- The objects that a process of a Setup writes. -/
def quantidadeInicial (amb : Ambiente) : Nat :=
  if amb.processo.sessaoAberta then 3 else 0

namespace Diario

/- A Setup is handled. -/
def setup
    (d : Diario)
    (amb : Ambiente)
    (id : List Byte) : Diario where
  filhos :=
    if amb.popen then
      d.filhos ++ [(id, quantidadeInicial amb)]
    else
      d.filhos
  ultimo := some id
  gravado := d.gravado

/- The `i`-th process, of `id`, writes with `n` to follow. -/
def gravacao
    (d : Diario)
    (i : Nat)
    (id : List Byte)
    (n : Nat)
    (escrita : Host.Escrita) : Diario :=
  if sucede escrita then
    { d with
      filhos := d.filhos.set i (id, n)
      gravado := if n = 0 then some id else d.gravado }
  else
    { d with
      filhos := d.filhos.set i (id, 0)
      gravado :=
        if n = 0 ∧ interrompe escrita then
          if escrita.tee.closeAndDeletePersistentObject1 =
              teeSuccess then
            none
          else
            some (idDaParte escrita.tee.escritos id)
        else
          d.gravado }

def seguinte (d : Diario) : Evento → Diario
| .captura amb captura =>
    if Setup captura.packet then
      d.setup amb (setupIdDispositivo captura.packet)
    else
      d
| .gravacao i escrita =>
    match d.filhos[i]? with
    | some (id, n + 1) => d.gravacao i id n escrita
    | _ => d

end Diario

/- The log of what happened over what was stored. -/
def diario
    (storage : Storage)
    (history : List Evento) : Diario :=
  history.foldl Diario.seguinte
    ⟨[], none, (storage idObjSecrets).map idDosSecrets⟩

theorem diario_append
    (storage : Storage)
    (history : List Evento)
    (evento : Evento) :
    diario storage (history ++ [evento]) =
      (diario storage history).seguinte evento := by
  rw [diario, List.foldl_append]
  rfl

------------------------------------------------------------
-- The Log Describes The State
------------------------------------------------------------

/- A process that has `n` of the objects of a Setup to write. -/
structure DescreveFilho
    (filho : List Byte × Nat)
    (pendentes : List Host.Gravacao) : Prop where
  length : filho.1.length = 16
  quantidade : filho.2 ≤ 3
  pendentes : ∃ chave : List Char, chave.length = 64 ∧
    pendentes =
      (Host.gravacoes chave (digitosTrocados filho.1)).drop
        (3 - filho.2)

structure Descreve
    (d : Diario)
    (estado : Estado) : Prop where
  global : estado.idDispositivoHex =
    d.ultimo.map digitosTrocados
  length : ∀ id, d.ultimo = some id → id.length = 16
  gravado : (estado.storage idObjSecrets).map idDosSecrets =
    d.gravado
  filhos : List.Forall₂ DescreveFilho d.filhos estado.filhos

theorem descreve_inicial
    (storage : Storage) :
    Descreve (diario storage []) (estadoInicial storage) where
  global := rfl
  length := by
    intro id hId
    cases hId
  gravado := rfl
  filhos := .nil

theorem globalValido_of_descreve
    {d : Diario}
    {estado : Estado}
    (hDescreve : Descreve d estado) :
    GlobalValido estado := by
  intro hex hHex
  rw [hDescreve.global] at hHex
  rcases Option.map_eq_some_iff.mp hHex with ⟨id, hId, hEq⟩
  exact ⟨id, hDescreve.length id hId, hEq.symm⟩

/- The identifier of the secrets that a Setup writes. -/
theorem idDosSecrets_append
    {chave : List Char}
    {id : List Byte}
    (hChave : chave.length = 64)
    (hId : id.length = 16) :
    idDosSecrets (chave ++ digitosTrocados id) = id := by
  have hSize :
      (digitosTrocados id).length = idDispositivoSzHex := by
    rw [length_digitosTrocados, hId]
    rfl
  have hSlice :
      slice keySzHex idDispositivoSzHex
          (chave ++ (digitosTrocados id ++ [])) =
        digitosTrocados id :=
    Bytes.slice_middle [] hChave hSize
  have hFour : id.length = 4 * 4 := hId
  rw [List.append_nil] at hSlice
  rw [idDosSecrets, hSlice, decode_digitosTrocados hFour,
    Bytes.swapWords_swapWords]

/- What is left of them when they are not written. -/
theorem idDosSecrets_sobra
    (tee : Ta.TeeCriacao)
    {chave : List Char}
    {id : List Byte}
    (hChave : chave.length = 64)
    (hId : id.length = 16) :
    (tee.sobra (chave ++ digitosTrocados id)).map idDosSecrets =
      if tee.closeAndDeletePersistentObject1 = teeSuccess then
        none
      else
        some (idDaParte tee.escritos id) := by
  have hSize :
      ((digitosTrocados id).take
          (tee.escritos - keySzHex)).length ≤
        idDispositivoSzHex := by
    rw [List.length_take, length_digitosTrocados, hId]
    exact Nat.min_le_right _ _
  have hFront :
      (chave ++ digitosTrocados id).drop keySzHex =
        digitosTrocados id :=
    List.drop_left' hChave
  have hSlice :
      slice keySzHex idDispositivoSzHex
          ((chave ++ digitosTrocados id).take tee.escritos) =
        (digitosTrocados id).take
          (tee.escritos - keySzHex) := by
    rw [slice, List.drop_take, hFront]
    exact List.take_of_length_le hSize
  unfold Ta.TeeCriacao.sobra
  split
  · rfl
  · rw [Option.map_some, idDosSecrets, hSlice]
    rfl

theorem descreve_captura
    {d : Diario}
    {estado estado' : Estado}
    {amb : Ambiente}
    {captura : Captura}
    {saida : Saida}
    (hDescreve : Descreve d estado)
    (hTratar :
      tratar estado (.captura amb captura) =
        some (estado', saida)) :
    Descreve (d.seguinte (.captura amb captura)) estado' := by
  rcases estado_of_tratar hTratar with
    ⟨hStorage, hSetup, hOther⟩
  by_cases hIs : Setup captura.packet
  · rcases hSetup hIs with ⟨hGlobal, hFilhos⟩
    have hLength := length_setupIdDispositivo captura
    rw [Diario.seguinte, if_pos hIs]
    refine ⟨hGlobal, ?_, ?_, ?_⟩
    · intro id hId
      rw [← Option.some.inj hId]
      exact hLength
    · rw [hStorage]
      exact hDescreve.gravado
    · rw [hFilhos]
      unfold Diario.setup filhosDoSetup quantidadeInicial
      have hChave : (chaveDoSetup captura).length = 64 := by
        rw [chaveDoSetup, length_digitosTrocados,
          length_setupChave]
      cases hPopen : amb.popen with
      | false =>
          simpa using hDescreve.filhos
      | true =>
          refine List.rel_append hDescreve.filhos ?_
          refine .cons ?_ .nil
          cases hSessao : amb.processo.sessaoAberta with
          | false =>
              exact
                ⟨hLength, by simp, chaveDoSetup captura, hChave,
                  rfl⟩
          | true =>
              exact
                ⟨hLength, by simp, chaveDoSetup captura, hChave,
                  rfl⟩
  · rcases hOther hIs with ⟨hGlobal, hFilhos⟩
    rw [Diario.seguinte, if_neg hIs]
    exact
      ⟨hGlobal.trans hDescreve.global, hDescreve.length,
        by rw [hStorage]; exact hDescreve.gravado,
        by rw [hFilhos]; exact hDescreve.filhos⟩

/- The object that is written next, and what follows. -/
theorem pendentes_succ
    {id : List Byte}
    {n : Nat}
    {pendentes : List Host.Gravacao}
    (hFilho : DescreveFilho (id, n + 1) pendentes) :
    ∃ g resto,
      pendentes = g :: resto ∧
        DescreveFilho (id, n) resto ∧
        (n = 0 →
          g.1 = idObjSecrets ∧
            ∃ chave : List Char, chave.length = 64 ∧
              g.2 = chave ++ digitosTrocados id) ∧
        (n ≠ 0 → g.1 ≠ idObjSecrets) := by
  rcases hFilho with ⟨hLength, hLe, chave, hChave, hPendentes⟩
  have hId : id.length = 16 := hLength
  have hN : n = 0 ∨ n = 1 ∨ n = 2 := by
    have hThree : n + 1 ≤ 3 := hLe
    omega
  have hWrites :
      Host.gravacoes chave (digitosTrocados id) =
        [(idObjKey, chave), (idObjDisp, digitosTrocados id),
          (idObjSecrets, chave ++ digitosTrocados id)] := rfl
  have hDisp : idObjDisp ≠ idObjSecrets := by decide
  have hKey : idObjKey ≠ idObjSecrets := by decide
  rw [hWrites] at hPendentes
  rcases hN with h | h | h
  · subst h
    refine
      ⟨_, _, hPendentes, ⟨hId, by simp, chave, hChave, rfl⟩,
        fun _ => ⟨rfl, chave, hChave, rfl⟩,
        fun h => absurd rfl h⟩
  · subst h
    refine
      ⟨_, _, hPendentes, ⟨hId, by simp, chave, hChave, rfl⟩,
        fun h => absurd h (by decide), fun _ => hDisp⟩
  · subst h
    refine
      ⟨_, _, hPendentes, ⟨hId, by simp, chave, hChave, rfl⟩,
        fun h => absurd h (by decide), fun _ => hKey⟩

/- Replacing a process and its description. -/
theorem forall₂_set
    {α β : Type}
    {R : α → β → Prop}
    {xs : List α}
    {ys : List β}
    (hAll : List.Forall₂ R xs ys)
    (i : Nat)
    {x : α}
    {y : β}
    (hNew : R x y) :
    List.Forall₂ R (xs.set i x) (ys.set i y) := by
  induction hAll generalizing i with
  | nil => exact .nil
  | cons hHead hTail ih =>
      cases i with
      | zero => exact .cons hNew hTail
      | succ i => exact .cons hHead (ih i)

/- A process and its description stand at one index. -/
theorem filho_of_getElem?
    {α β : Type}
    {R : α → β → Prop}
    {xs : List α}
    {ys : List β}
    (hAll : List.Forall₂ R xs ys)
    {i : Nat}
    {y : β}
    (hy : ys[i]? = some y) :
    ∃ x, xs[i]? = some x ∧ R x y := by
  induction hAll generalizing i with
  | nil => cases hy
  | cons hHead hTail ih =>
      cases i with
      | zero =>
          cases hy
          exact ⟨_, rfl, hHead⟩
      | succ i =>
          exact ih hy

theorem descreve_gravacao
    {d : Diario}
    {estado estado' : Estado}
    {i : Nat}
    {escrita : Host.Escrita}
    {saida : Saida}
    (hDescreve : Descreve d estado)
    (hTratar :
      tratar estado (.gravacao i escrita) =
        some (estado', saida)) :
    Descreve (d.seguinte (.gravacao i escrita)) estado' := by
  rcases tratar_gravacao hTratar with
    ⟨_, pendentes, storage, resto, hPendentes, hProxima,
      hEstado⟩
  rcases filho_of_getElem? hDescreve.filhos hPendentes with
    ⟨⟨id, quantidade⟩, hFilho, hDescrito⟩
  cases quantidade with
  | zero =>
      -- a process with nothing to write takes no turn
      rcases hDescrito with ⟨_, _, chave, _, hNone⟩
      have hNil : pendentes = [] := hNone
      rw [hNil] at hProxima
      cases hProxima
  | succ n =>
      rcases pendentes_succ hDescrito with
        ⟨g, depois, hCons, hDepois, hUltima, hOutra⟩
      rw [hCons, proximaGravacao_cons] at hProxima
      rcases Prod.mk.inj (Option.some.inj hProxima) with
        ⟨hStorage, hResto⟩
      have hVazio : DescreveFilho (id, 0) [] :=
        ⟨hDescrito.length, Nat.zero_le 3,
          List.replicate 64 '0', by simp, rfl⟩
      have hGravado := hDescreve.gravado
      rw [Diario.seguinte, hFilho, hEstado]
      simp only [Diario.gravacao]
      cases hSucede : sucede escrita with
      | true =>
          rw [hSucede] at hStorage hResto
          subst hStorage hResto
          refine
            ⟨hDescreve.global, hDescreve.length, ?_,
              forall₂_set hDescreve.filhos i hDepois⟩
          by_cases hn : n = 0
          · rcases hUltima hn with
              ⟨hName, chave, hChave, hData⟩
            simp [hn, hName, hData,
              idDosSecrets_append hChave hDescrito.length]
          · simpa [hn, (hOutra hn).symm] using hGravado
      | false =>
          rw [hSucede] at hStorage hResto
          subst hStorage hResto
          refine
            ⟨hDescreve.global, hDescreve.length, ?_,
              forall₂_set hDescreve.filhos i hVazio⟩
          cases hInterrompe : interrompe escrita with
          | true =>
              by_cases hn : n = 0
              · rcases hUltima hn with
                  ⟨hName, chave, hChave, hData⟩
                have hSobra :=
                  idDosSecrets_sobra escrita.tee hChave
                    hDescrito.length
                simpa [hn, hName, hData] using hSobra
              · simpa [hn, (hOutra hn).symm] using hGravado
          | false => simpa using hGravado

theorem descreve_tratar
    {d : Diario}
    {estado estado' : Estado}
    {evento : Evento}
    {saida : Saida}
    (hDescreve : Descreve d estado)
    (hTratar : tratar estado evento = some (estado', saida)) :
    Descreve (d.seguinte evento) estado' := by
  cases evento with
  | captura amb captura =>
      exact descreve_captura hDescreve hTratar
  | gravacao i escrita =>
      exact descreve_gravacao hDescreve hTratar

------------------------------------------------------------
-- Consistent Replies
------------------------------------------------------------

/-
  A Reply with a computed proof has the identifier that was in
  the secrets when the proof was computed.
-/
def Consistente (x : Step Estado Evento Saida) : Prop :=
  ∀ frame res prova,
    x.output.reply = some frame →
      x.output.resposta = some ⟨res, some prova⟩ →
        (x.before.storage idObjSecrets).map idDosSecrets =
          some (replyIdDispositivo frame)

/-
  When a proof is computed for a Request, the Setup that was
  handled last has the identifier of the Setup that wrote the
  secrets last.
-/
def SetupGravado
    (storage : Storage)
    (x : Step Estado Evento Saida) : Prop :=
  ∀ amb captura, x.event = .captura amb captura →
    Respondido amb x.before captura →
      Host.ProvaDisponivel amb.processo x.before.storage →
        (diario storage x.history).gravado =
          (diario storage x.history).ultimo

/- One event. -/
theorem consistente_of_tratar
    {storage : Storage}
    {history : List Evento}
    {estado estado' : Estado}
    {evento : Evento}
    {saida : Saida}
    (hDescreve : Descreve (diario storage history) estado)
    (hTratar : tratar estado evento = some (estado', saida)) :
    Consistente ⟨history, estado, evento, saida⟩ ↔
      SetupGravado storage ⟨history, estado, evento, saida⟩ := by
  cases evento with
  | gravacao i escrita =>
      have hNada := (tratar_gravacao hTratar).1
      constructor
      · intro _ amb captura hEvent
        cases hEvent
      · intro _ frame res prova hFrame
        rw [hNada] at hFrame
        cases hFrame
  | captura amb captura =>
      have hGlobal := globalValido_of_descreve hDescreve
      rcases reply_of_tratar hGlobal hTratar with
        ⟨hSent, hReply⟩
      -- the identifier of what is sent is that of the last Setup
      have hUltimo : ∀ frame, saida.reply = some frame →
          (diario storage history).ultimo =
            some (replyIdDispositivo frame) := by
        intro frame hFrame
        rcases hReply frame hFrame with
          ⟨id, hLength, hHex, _, hFrameEq⟩
        rw [hDescreve.global] at hHex
        rcases Option.map_eq_some_iff.mp hHex with
          ⟨id', hId', hDigits⟩
        have hSameSwap := congrArg Hex.decode hDigits
        have hFour : id.length = 4 * 4 := hLength
        have hFour' : id'.length = 4 * 4 :=
          hDescreve.length id' hId'
        rw [decode_digitosTrocados hFour,
          decode_digitosTrocados hFour'] at hSameSwap
        have hSame : id' = id := by
          rw [← Bytes.swapWords_swapWords id', hSameSwap,
            Bytes.swapWords_swapWords]
        rw [hId', hSame, hFrameEq,
          replyIdDispositivo_respostaCom captura hLength]
      constructor
      · intro hConsistente amb' captura' hEvent hRespondido
          hDisponivel
        cases hEvent
        rcases Option.isSome_iff_exists.mp
            (hSent.mpr hRespondido) with
          ⟨frame, hFrame⟩
        rcases hReply frame hFrame with
          ⟨_, _, _, hResposta, _⟩
        rcases (respostaTa_prova_iff hResposta).1.mpr
            hDisponivel with
          ⟨res, prova, hAnswer⟩
        have hSecrets :=
          hConsistente frame res prova hFrame hAnswer
        rw [← hDescreve.gravado, hUltimo frame hFrame]
        exact hSecrets
      · intro hGravado frame res prova hFrame hAnswer
        have hRespondido :=
          hSent.mp (Option.isSome_iff_exists.mpr ⟨frame, hFrame⟩)
        rcases hReply frame hFrame with
          ⟨_, _, _, hResposta, _⟩
        have hDisponivel :=
          (respostaTa_prova_iff hResposta).1.mp
            ⟨res, prova, hAnswer⟩
        have hSame :=
          hGravado amb captura rfl hRespondido hDisponivel
        have hNow :
            (estado.storage idObjSecrets).map idDosSecrets =
              (diario storage history).gravado :=
          hDescreve.gravado
        exact hNow.trans (hSame.trans (hUltimo frame hFrame))

/-
  In every run, whatever the order of the writes, the Replies
  are consistent exactly when no proof is computed between a
  Setup of another identifier and the end of its process.
-/
theorem consistente_iff
    (storage : Storage)
    {eventos : List Evento}
    {last : Estado}
    {steps : List (Step Estado Evento Saida)}
    (hRun :
      exec tratar (estadoInicial storage) eventos =
        some (last, steps)) :
    (∀ x ∈ steps, Consistente x) ↔
      ∀ x ∈ steps, SetupGravado storage x := by
  have hStep :
      ∀ (history : List Evento) (s : Estado) (e : Evento)
          (s' : Estado) (output : Saida),
        Descreve (diario storage history) s →
          tratar s e = some (s', output) →
          True →
          Descreve (diario storage (history ++ [e])) s' ∧
            (Consistente ⟨history, s, e, output⟩ ↔
              SetupGravado storage ⟨history, s, e, output⟩) := by
    intro history s e s' output hDescreve hTratar _
    rw [diario_append]
    exact
      ⟨descreve_tratar hDescreve hTratar,
        consistente_of_tratar hDescreve hTratar⟩
  have hEach :=
    (@Transition.exec_invariant _ _ _
      (fun history s => Descreve (diario storage history) s)
      (fun _ => True)
      (fun x => Consistente x ↔ SetupGravado storage x) _ hStep
      _ _ _ _ (descreve_inicial storage) hRun
      (fun _ _ => trivial)).2
  constructor
  · intro hConsistente x hx
    exact (hEach x hx).mp (hConsistente x hx)
  · intro hGravado x hx
    exact (hEach x hx).mpr (hGravado x hx)

------------------------------------------------------------
-- A Second Setup
------------------------------------------------------------

/-
  The process of a first Setup writes all its objects. A
  Request comes before the one of a second Setup writes.
-/
def eventosCruzados : List Evento :=
  [.captura ambienteZero (capturaSetup 1 2),
    .gravacao 0 .sucesso, .gravacao 0 .sucesso,
    .gravacao 0 .sucesso,
    .captura ambienteZero (capturaSetup 1 3),
    .captura ambienteZero capturaPedido]

/- The identifiers in the secrets and in what is sent last. -/
theorem ids_eventosCruzados :
    (exec tratar (estadoInicial .empty) eventosCruzados).map
        (fun run =>
          run.2.getLast?.map (fun x =>
            ((x.before.storage idObjSecrets).map idDosSecrets,
              x.output.reply.map replyIdDispositivo,
              (x.output.resposta.bind Ta.Resposta.prova).isSome))) =
      some
        (some
          (some (List.replicate 16 2),
            some (List.replicate 16 3), true)) := by
  decide +kernel

theorem consistente_not_every_run :
    ¬ ∀ (storage : Storage) (eventos : List Evento)
        (last : Estado)
        (steps : List (Step Estado Evento Saida)),
      exec tratar (estadoInicial storage) eventos =
          some (last, steps) →
        ∀ x ∈ steps, Consistente x := by
  intro hClaim
  rcases Option.map_eq_some_iff.mp ids_eventosCruzados with
    ⟨⟨last, steps⟩, hRun, hIds⟩
  rcases Option.map_eq_some_iff.mp hIds with ⟨x, hLast, hx⟩
  rcases Prod.mk.inj hx with ⟨hSecrets, hRest⟩
  rcases Prod.mk.inj hRest with ⟨hReply, hProva⟩
  rcases Option.map_eq_some_iff.mp hReply with
    ⟨frame, hFrame, hId⟩
  rcases Option.isSome_iff_exists.mp hProva with
    ⟨prova, hSome⟩
  rcases Option.bind_eq_some_iff.mp hSome with
    ⟨resposta, hResposta, hBytes⟩
  have hAnswer :
      x.output.resposta = some ⟨resposta.res, some prova⟩ := by
    rw [hResposta, ← hBytes]
  have hSame :=
    hClaim .empty eventosCruzados last steps hRun x
      (List.mem_of_getLast? hLast) frame resposta.res prova
      hFrame hAnswer
  rw [hSecrets, hId] at hSame
  exact absurd hSame (by decide)

theorem consistente_iff_cruzados :
    ∃ last steps,
      exec tratar (estadoInicial .empty) eventosCruzados =
          some (last, steps) ∧
        ((∀ x ∈ steps, Consistente x) ↔
          ∀ x ∈ steps, SetupGravado .empty x) := by
  rcases Option.map_eq_some_iff.mp ids_eventosCruzados with
    ⟨⟨last, steps⟩, hRun, _⟩
  exact ⟨last, steps, hRun, consistente_iff .empty hRun⟩

end Service

end Optee

end P4dra
