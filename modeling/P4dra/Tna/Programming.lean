import Mathlib.Tactic.IntervalCases
import P4dra.Tna.Isolation

/-
  Frames that meet the switch while it is programmed.

  The script adds the entries one driver call after the
  other, and frames pass at any time. A pass finds the tables
  as some of the calls have left them, egress maybe later
  than ingress. The order of the calls makes this safe: the
  quarter-rounds come first, the devices next, and the entry
  that lets a proof through comes last.

  Main declarations:
    * `passagemDurante`, `processarDurante`
    * `processarDurante_refina`
    * `aceito_so_no_fim`
    * `nada_sai_sem_concluir`
-/

------------------------------------------------------------
-- Passes While The Tables Change
------------------------------------------------------------

namespace P4dra

open Bytes (Byte)
open MatchAction
open Recirculation (Outcome)

namespace Tna

/-
  One pass: ingress finds the tables after `n` calls of the
  script, egress after `m`.
-/
def passagemDurante
    (calls : List BfrtCall)
    (n m : Nat)
    (frame : Frame) : Option (BitVec 9 × Frame) := do
  let unicast ← ingressPass (calls.take n) frame
  if unicast.bypassEgress then
    some (unicast.port, unicast.frame)
  else
    let frame ← egressPass (calls.take m) unicast.frame
    some (unicast.port, frame)

def travessiaDurante
    (calls : List BfrtCall)
    (n m : Nat)
    (frame : Frame) : Outcome Frame Resultado :=
  (passagemDurante calls n m frame).elim (.done .descartado)
    (fun saida =>
      if portaRecirculacao saida.1 then
        .again saida.2
      else
        .done (.emitido saida.1 saida.2))

/-
  Process a frame in passes that find the tables as the list
  says, as long as the list is.
-/
def processarDurante
    (calls : List BfrtCall) :
    List (Nat × Nat) → Frame → Option Resultado
| [], _ => none
| (n, m) :: agenda, frame =>
    match travessiaDurante calls n m frame with
    | .again frame => processarDurante calls agenda frame
    | .done resultado => some resultado

/- The calls only become more, from `k` on. -/
def EmOrdem : Nat → List (Nat × Nat) → Prop
| _, [] => True
| k, (n, m) :: agenda => k ≤ n ∧ n ≤ m ∧ EmOrdem m agenda

------------------------------------------------------------
-- Calls Of The Script
------------------------------------------------------------

/- The calls before the default rules. -/
def inicioDoPrograma
    (dispositivos : List Dispositivo) : List BfrtCall :=
  regrasForro ++ dispositivos.flatMap Dispositivo.chamadas

/- The two calls of a device are those of its parameters. -/
theorem exists_dispositivos
    (confIni : Nat)
    (linhas : List Linha) :
    ∀ globals : Globals,
      ∃ dispositivos : List Dispositivo,
        (percorrerDispositivos confIni globals linhas).1 =
          dispositivos.flatMap Dispositivo.chamadas := by
  induction linhas with
  | nil =>
      intro globals
      exact ⟨[], rfl⟩
  | cons linha rest ih =>
      intro globals
      rw [percorrerDispositivos]
      cases hProgramar :
          programarDispositivo confIni globals linha with
      | none => exact ⟨[], rfl⟩
      | some programado =>
          rcases programado with ⟨globals', calls⟩
          rcases ih globals' with ⟨dispositivos, hRest⟩
          have hCalls :
              ∃ d : Dispositivo, calls = d.chamadas := by
            unfold programarDispositivo at hProgramar
            simp only [Option.bind_eq_bind,
              Option.bind_eq_some_iff, Option.some.injEq,
              Prod.mk.injEq] at hProgramar
            rcases hProgramar with
              ⟨_, _, _, _, _, _, id, _, configuracao, _, key,
                _, _, hEq⟩
            exact ⟨⟨id, configuracao, key⟩, hEq.symm⟩
          rcases hCalls with ⟨d, hd⟩
          exact
            ⟨d :: dispositivos, by
              rw [List.flatMap_cons, ← hRest, ← hd]⟩

/- Whatever it reads, the script makes calls of this form. -/
theorem exists_calls_setup
    (confIni : Nat)
    (arquivo : List (List Char)) :
    ∃ dispositivos : List Dispositivo,
      (setup confIni arquivo).calls =
        if (setup confIni arquivo).concluida then
          programa dispositivos
        else
          inicioDoPrograma dispositivos := by
  unfold setup
  split
  · exact ⟨[], (List.append_nil _).symm⟩
  · rename_i linhas _
    rcases exists_dispositivos confIni linhas
        (Vector.replicate 8 none) with
      ⟨dispositivos, hCalls⟩
    refine ⟨dispositivos, ?_⟩
    dsimp only
    split
    · rw [if_pos rfl, hCalls]
      rfl
    · rw [if_neg Bool.false_ne_true, hCalls]
      rfl

/- The number of calls before the default rules. -/
def quantidadeInicial
    (dispositivos : List Dispositivo) : Nat :=
  (inicioDoPrograma dispositivos).length

theorem take_inicio
    (dispositivos : List Dispositivo)
    {n : Nat}
    (hn : n ≤ quantidadeInicial dispositivos) :
    (programa dispositivos).take n =
      (inicioDoPrograma dispositivos).take n := by
  have hPrograma :
      programa dispositivos =
        inicioDoPrograma dispositivos ++ regrasPadrao := rfl
  rw [hPrograma, List.take_append_of_le_length hn]

/- The calls so far, with those of the default rules among them. -/
theorem take_padrao
    (dispositivos : List Dispositivo)
    {n : Nat}
    (hn : quantidadeInicial dispositivos ≤ n) :
    (programa dispositivos).take n =
      inicioDoPrograma dispositivos ++
        regrasPadrao.take
          (n - quantidadeInicial dispositivos) := by
  have hPrograma :
      programa dispositivos =
        inicioDoPrograma dispositivos ++ regrasPadrao := rfl
  rw [hPrograma, List.take_append,
    List.take_of_length_le hn]
  rfl

/- The calls that are still to come after so many. -/
theorem drop_padrao
    (dispositivos : List Dispositivo)
    {n j : Nat}
    (hn : quantidadeInicial dispositivos + j ≤ n) :
    ∀ call ∈ (programa dispositivos).drop n,
      call ∈ regrasPadrao.drop j := by
  intro call hMem
  have hPrograma :
      programa dispositivos =
        inicioDoPrograma dispositivos ++ regrasPadrao := rfl
  rw [hPrograma, List.drop_append,
    List.drop_of_length_le
      (show (inicioDoPrograma dispositivos).length ≤ n from
        Nat.le_trans (Nat.le_add_right _ _) hn),
    List.nil_append] at hMem
  have hMore :
      n - (inicioDoPrograma dispositivos).length =
        j + (n - (inicioDoPrograma dispositivos).length -
          j) := by
    have hLength :
        (inicioDoPrograma dispositivos).length + j ≤ n := hn
    omega
  rw [hMore, ← List.drop_drop] at hMem
  exact List.mem_of_mem_drop hMem

------------------------------------------------------------
-- Tables Under A Part Of The Calls
------------------------------------------------------------

section Entradas

variable {α : Type} (entrada : BfrtCall → Option α)

/- A table has got the first of its entries. -/
theorem filterMap_take_prefix
    (calls : List BfrtCall)
    (n : Nat) :
    (calls.take n).filterMap entrada <+:
      calls.filterMap entrada := by
  refine ⟨(calls.drop n).filterMap entrada, ?_⟩
  rw [← List.filterMap_append, List.take_append_drop]

/- It has got all of them when the other calls add none. -/
theorem filterMap_take_completa
    (dispositivos : List Dispositivo)
    {n j : Nat}
    (hn : quantidadeInicial dispositivos + j ≤ n)
    (hPadrao : (regrasPadrao.drop j).filterMap entrada = []) :
    ((programa dispositivos).take n).filterMap entrada =
      (programa dispositivos).filterMap entrada := by
  have hNone :
      ((programa dispositivos).drop n).filterMap entrada =
        [] := by
    apply List.filterMap_eq_nil_iff.mpr
    intro call hMem
    exact
      List.filterMap_eq_nil_iff.mp hPadrao call
        (drop_padrao dispositivos hn call hMem)
  have hAll :=
    congrArg (List.filterMap entrada)
      (List.take_append_drop n (programa dispositivos))
  rw [List.filterMap_append, hNone, List.append_nil] at hAll
  exact hAll

/- It is empty before the first of the calls that fill it. -/
theorem filterMap_take_vazia
    (dispositivos : List Dispositivo)
    {n j : Nat}
    (hn : n ≤ quantidadeInicial dispositivos + j)
    (hIg : ∀ i qr rodada, entrada (.forroIg i qr rodada) = none)
    (hEg : ∀ i qr rodada, entrada (.forroEg i qr rodada) = none)
    (hFin : ∀ rodada, entrada (.forroEg11Fin rodada) = none)
    (hDispositivo :
      ∀ d : Dispositivo, d.chamadas.filterMap entrada = [])
    (hPadrao : (regrasPadrao.take j).filterMap entrada = []) :
    ((programa dispositivos).take n).filterMap entrada =
      [] := by
  have hTake :
      (programa dispositivos).take
          (quantidadeInicial dispositivos + j) =
        inicioDoPrograma dispositivos ++
          regrasPadrao.take j := by
    rw [take_padrao dispositivos (Nat.le_add_right _ j),
      Nat.add_sub_cancel_left]
  have hVazia :
      (inicioDoPrograma dispositivos ++
          regrasPadrao.take j).filterMap entrada = [] := by
    apply List.filterMap_eq_nil_iff.mpr
    intro call hMem
    rcases List.mem_append.mp hMem with hIn | hIn
    · rcases List.mem_append.mp hIn with hForro | hDevices
      · have hDeForro := deForro_of_mem_regrasForro hForro
        cases call with
        | forroIg i qr rodada => exact hIg i qr rodada
        | forroEg i qr rodada => exact hEg i qr rodada
        | forroEg11Fin rodada => exact hFin rodada
        | _ => cases hDeForro
      · rcases List.mem_flatMap.mp hDevices with ⟨d, _, hCall⟩
        exact
          List.filterMap_eq_nil_iff.mp (hDispositivo d) call
            hCall
    · exact List.filterMap_eq_nil_iff.mp hPadrao call hIn
  have hPrefix :=
    filterMap_take_prefix entrada
      ((programa dispositivos).take
        (quantidadeInicial dispositivos + j)) n
  rw [List.take_take, Nat.min_eq_left hn, hTake, hVazia]
    at hPrefix
  exact List.prefix_nil.mp hPrefix

end Entradas

/- Every action that a table got keeps a condition. -/
theorem keeps_filterMap
    {κ σ : Type}
    {P Q : σ → Prop}
    {entrada : BfrtCall → Option (κ × (σ → Flow σ))}
    (hEntrada :
      ∀ call entry, entrada call = some entry →
        Keeps P Q entry.2)
    (calls : List BfrtCall) :
    ∀ entry ∈ calls.filterMap entrada, Keeps P Q entry.2 := by
  intro entry hMem
  rcases List.mem_filterMap.mp hMem with ⟨call, _, hCall⟩
  exact hEntrada call entry hCall

------------------------------------------------------------
-- Quarter-Rounds
------------------------------------------------------------

/- The rules of the quarter-rounds are the first calls. -/
theorem ingressApply_take_estado
    (dispositivos : List Dispositivo)
    {n : Nat}
    (hn : quantidadeInicial dispositivos ≤ n)
    {s : IngressState}
    (hOper : s.oper = 0x3) :
    ingressApply ((programa dispositivos).take n) s =
      ingressApply (programa dispositivos) s := by
  have hTables :
      ∀ i,
        tblForroIg ((programa dispositivos).take n) i =
          tblForroIg (programa dispositivos) i := by
    intro i
    rw [tblForroIg, tblForroIg,
      filterMap_take_completa (entradaForroIg i) dispositivos
        (j := 0) hn rfl]
  simp only [ingressApply, hOper, if_true, quartoIngress,
    hTables]

theorem egressApply_take_estado
    (dispositivos : List Dispositivo)
    {m : Nat}
    (hm : quantidadeInicial dispositivos ≤ m)
    {s : EgressState}
    (hOper : s.oper = 0x3) :
    egressApply ((programa dispositivos).take m) s =
      egressApply (programa dispositivos) s := by
  have hTables :
      ∀ i,
        tblForroEg ((programa dispositivos).take m) i =
          tblForroEg (programa dispositivos) i := by
    intro i
    rw [tblForroEg, tblForroEg,
      filterMap_take_completa (entradaForroEg i) dispositivos
        (j := 0) hm rfl]
  simp only [egressApply, hOper, if_true, quartoEgress,
    hTables]

------------------------------------------------------------
-- Initialization
------------------------------------------------------------

/- The entries of the devices are those of operation 0x2. -/
theorem carregar_of_mem
    {dispositivos : List Dispositivo}
    {entry :
      (BitVec 8 × BitVec 128) ×
        (IngressState → Flow IngressState)}
    (hMem :
      entry ∈ (tblP4draIg0 (programa dispositivos)).entries)
    (hOper : entry.1.1 = 0x2) :
    ∃ configuracao key,
      entry.2 = Ingress.carregarEstado0 configuracao key := by
  rw [tblP4draIg0_entries] at hMem
  rcases List.mem_append.mp hMem with hDevice | hDefault
  · rcases List.mem_map.mp hDevice with ⟨d, _, hd⟩
    rw [← hd]
    exact ⟨d.configuracao, d.key, rfl⟩
  · simp only [List.mem_cons, List.not_mem_nil, or_false]
      at hDefault
    rcases hDefault with hd | hd
    · rw [hd] at hOper
      exact absurd hOper (by decide)
    · rw [hd] at hOper
      exact absurd hOper (by decide)

/- Before the default rules there are no other entries. -/
theorem oper_of_mem_inicio
    {dispositivos : List Dispositivo}
    {n : Nat}
    (hn : n ≤ quantidadeInicial dispositivos)
    {entry :
      (BitVec 8 × BitVec 128) ×
        (IngressState → Flow IngressState)}
    (hMem :
      entry ∈
        (tblP4draIg0
          ((programa dispositivos).take n)).entries) :
    entry.1.1 = 0x2 := by
  rw [take_inicio dispositivos hn] at hMem
  rcases List.mem_filterMap.mp hMem with ⟨call, hCall, hEntry⟩
  have hIn := List.mem_of_mem_take hCall
  rcases List.mem_append.mp hIn with hForro | hDevices
  · have hDeForro := deForro_of_mem_regrasForro hForro
    cases call with
    | forroIg i qr rodada => cases hEntry
    | forroEg i qr rodada => cases hEntry
    | forroEg11Fin rodada => cases hEntry
    | _ => cases hDeForro
  · rcases List.mem_flatMap.mp hDevices with ⟨d, _, hOf⟩
    simp only [Dispositivo.chamadas, List.mem_cons,
      List.not_mem_nil, or_false] at hOf
    rcases hOf with hOf | hOf
    · rw [hOf] at hEntry
      cases hEntry
      rfl
    · rw [hOf] at hEntry
      cases hEntry

theorem tblP4draIg0_parteInicial
    (dispositivos : List Dispositivo)
    (n : Nat) :
    (tblP4draIg0 ((programa dispositivos).take n)).entries <+:
      (tblP4draIg0 (programa dispositivos)).entries := by
  generalize programa dispositivos = calls
  exact filterMap_take_prefix entradaP4draIg0 calls n

/- A proof is not started before its four tables are filled. -/
theorem sequence_inicializacao_take
    (dispositivos : List Dispositivo)
    {n : Nat}
    (hn : n ≤ quantidadeInicial dispositivos + 4)
    {s : IngressState}
    (hOper : s.oper = 0x2)
    (hPort : s.ucastEgressPort = none) :
    (ingressApply ((programa dispositivos).take n) s).dropCtl =
        true ∨
      (ingressApply ((programa dispositivos).take n)
        s).ucastEgressPort = none := by
  let calls := (programa dispositivos).take n
  let P : IngressState → Prop :=
    fun s => s.oper = 0x2 ∧ s.ucastEgressPort = none
  let Q : IngressState → Prop := fun s => s.dropCtl = true
  have hNoAction : Keeps P Q noAction :=
    fun t ht => Or.inl ⟨t, rfl, ht⟩
  have hIg0 :
      Keeps P Q
        ((tblP4draIg0 calls).apply
          (fun s => (s.oper, s.idDispositivo))) := by
    intro t ht
    rcases (tblP4draIg0 calls).apply_cases
        (fun s => (s.oper, s.idDispositivo)) t with
      hApply | ⟨entry, hMem, hKey, hApply⟩
    · rw [hApply]
      exact Or.inr ⟨_, rfl, rfl⟩
    · have hAll :
          entry ∈
            (tblP4draIg0 (programa dispositivos)).entries :=
        (tblP4draIg0_parteInicial dispositivos n).subset hMem
      rcases carregar_of_mem hAll
          (by rw [hKey]; exact ht.1) with
        ⟨configuracao, key, hAction⟩
      rw [hApply, hAction]
      exact Or.inl ⟨_, rfl, ht⟩
  have hIg1 :
      Keeps P Q
        ((tblP4draIg1 calls).apply IngressState.oper) := by
    apply Table.keeps hNoAction
    apply keeps_filterMap
    intro call entry hCall
    cases call with
    | ig1CarregarEstado1 oper =>
        cases hCall
        exact fun t ht => Or.inl ⟨_, rfl, ht⟩
    | _ => cases hCall
  have hIg2 :
      Keeps P Q
        ((tblP4draIg2 calls).apply IngressState.oper) := by
    apply Table.keeps hNoAction
    apply keeps_filterMap
    intro call entry hCall
    cases call with
    | ig2CarregarEstado2 oper =>
        cases hCall
        exact fun t ht => Or.inl ⟨_, rfl, ht⟩
    | _ => cases hCall
  have hIg3 :
      Keeps P Q
        ((tblP4draIg3 calls).apply IngressState.oper) := by
    apply Table.keeps hNoAction
    have hEntries : (tblP4draIg3 calls).entries = [] :=
      filterMap_take_vazia _ dispositivos hn (fun _ _ _ => rfl)
        (fun _ _ _ => rfl) (fun _ => rfl) (fun _ => rfl) rfl
    intro entry hMem
    rw [hEntries] at hMem
    cases hMem
  have hApply :
      ingressApply calls s =
        (sequence (trilhaInicializacao calls) s).state := by
    rw [ingressApply, if_neg (by rw [hOper]; decide),
      if_neg (by rw [hOper]; decide)]
  have hTrilha : Keeps P Q (sequence (trilhaInicializacao calls)) := by
    apply keeps_sequence
    intro statement hMem
    simp only [trilhaInicializacao, List.mem_cons,
      List.not_mem_nil, or_false] at hMem
    rcases hMem with h | h | h | h
    · rw [h]
      exact hIg0
    · rw [h]
      exact hIg1
    · rw [h]
      exact hIg2
    · rw [h]
      exact hIg3
  rcases hTrilha s ⟨hOper, hPort⟩ with
    ⟨t, hNext, ht⟩ | ⟨t, hExit, ht⟩
  · rw [hApply, hNext]
    exact Or.inr ht.2
  · rw [hApply, hExit]
    exact Or.inl ht

/-
  On a frame of another operation than 0x3 and 0x4 ingress
  gives no port, or does what the finished program does.
-/
theorem ingressApply_take_outra
    (dispositivos : List Dispositivo)
    (n : Nat)
    {s : IngressState}
    (hEstado : s.oper ≠ 0x3)
    (hCifra : s.oper ≠ 0x4)
    (hPort : s.ucastEgressPort = none) :
    (ingressApply ((programa dispositivos).take n) s).dropCtl =
        true ∨
      (ingressApply ((programa dispositivos).take n)
        s).ucastEgressPort = none ∨
      (quantidadeInicial dispositivos < n ∧
        ingressApply ((programa dispositivos).take n) s =
          ingressApply (programa dispositivos) s) := by
  by_cases hAll : quantidadeInicial dispositivos + 5 ≤ n
  · refine Or.inr (Or.inr ⟨by omega, ?_⟩)
    simp only [ingressApply, if_neg hEstado, if_neg hCifra,
      trilhaInicializacao, tblP4draIg0, tblP4draIg1,
      tblP4draIg2, tblP4draIg3]
    rw [filterMap_take_completa entradaP4draIg0 dispositivos
        hAll rfl,
      filterMap_take_completa _ dispositivos hAll rfl,
      filterMap_take_completa _ dispositivos hAll rfl,
      filterMap_take_completa _ dispositivos hAll rfl]
  · by_cases hOper : s.oper = 0x2
    · have hn : n ≤ quantidadeInicial dispositivos + 4 := by
        omega
      rcases sequence_inicializacao_take dispositivos hn hOper
          hPort with
        hDrop | hNone
      · exact Or.inl hDrop
      · exact Or.inr (Or.inl hNone)
    · have hStep :
          ∀ calls : List BfrtCall,
            ingressApply calls s =
              (sequence (trilhaInicializacao calls) s).state := by
        intro calls
        rw [ingressApply, if_neg hEstado, if_neg hCifra]
      have hDrop :
          (tblP4draIg0 ((programa dispositivos).take n)).apply
                (fun s => (s.oper, s.idDispositivo)) s =
              Ingress.drop s →
            (ingressApply ((programa dispositivos).take n)
              s).dropCtl = true := by
        intro hApply
        rw [hStep, trilhaInicializacao,
          sequence_cons_exit _ hApply]
        rfl
      by_cases hInicio : n ≤ quantidadeInicial dispositivos
      · left
        apply hDrop
        rcases (tblP4draIg0
              ((programa dispositivos).take n)).apply_cases
            (fun s => (s.oper, s.idDispositivo)) s with
          hApply | ⟨entry, hMem, hKey, _⟩
        · exact hApply
        · have hTwo := oper_of_mem_inicio hInicio hMem
          rw [hKey] at hTwo
          exact absurd hTwo hOper
      · rcases Table.apply_of_prefix
            (tblP4draIg0_parteInicial dispositivos n)
            (fun s => (s.oper, s.idDispositivo)) s with
          hApply | hApply
        · exact Or.inl (hDrop hApply)
        · refine Or.inr (Or.inr ⟨by omega, ?_⟩)
          have hExit :
              ∃ t,
                (tblP4draIg0 (programa dispositivos)).apply
                    (fun s => (s.oper, s.idDispositivo)) s =
                  .exit t := by
            rw [tblP4draIg0_apply, acaoP4draIg0, if_neg hOper]
            split
            · exact ⟨_, rfl⟩
            · split
              · exact ⟨_, rfl⟩
              · exact ⟨_, rfl⟩
          rcases hExit with ⟨t, hExit⟩
          rw [hStep, hStep, trilhaInicializacao,
            trilhaInicializacao,
            sequence_cons_exit _ (hApply.trans hExit),
            sequence_cons_exit _ hExit]

------------------------------------------------------------
-- Finalization
------------------------------------------------------------

/- The tables of the finalization before the last of them. -/
theorem keeps_trilhaFinalizacao
    (calls : List BfrtCall) :
    ∀ statement ∈ (trilhaFinalizacao calls).dropLast,
      Keeps (fun _ => True) (fun t => t.dropCtl = true)
        statement := by
  let Q : IngressState → Prop := fun t => t.dropCtl = true
  have hNext :
      ∀ f : IngressState → IngressState,
        Keeps (fun _ => True) Q (fun s => .next (f s)) :=
    fun f s _ => Or.inl ⟨f s, rfl, trivial⟩
  have hDrop : Keeps (fun _ => True) Q Ingress.drop :=
    fun s _ => Or.inr ⟨_, rfl, rfl⟩
  intro statement hMem
  simp only [trilhaFinalizacao, List.dropLast_cons_cons,
    List.dropLast_singleton, List.mem_cons, List.not_mem_nil,
    or_false] at hMem
  rcases hMem with h | h | h | h | h | h | h | h <;> rw [h]
  · refine Table.keeps (hNext id) (keeps_filterMap ?_ _) _
    intro call entry hCall
    cases call <;> cases hCall
    exact hNext _
  · refine Table.keeps (hNext id) (keeps_filterMap ?_ _) _
    intro call entry hCall
    cases call <;> cases hCall
    exact hNext _
  · refine Table.keeps (hNext id) (keeps_filterMap ?_ _) _
    intro call entry hCall
    cases call <;> cases hCall
    exact hNext _
  · refine Table.keeps (hNext id) (keeps_filterMap ?_ _) _
    intro call entry hCall
    cases call <;> cases hCall
    exact hNext _
  · refine Table.keeps (hNext id) (keeps_filterMap ?_ _) _
    intro call entry hCall
    cases call <;> cases hCall
    exact hNext _
  · refine Table.keeps (hNext _) (keeps_filterMap ?_ _) _
    intro call entry hCall
    cases call <;> cases hCall
    exact hNext _
  · refine Table.keeps hDrop (keeps_filterMap ?_ _) _
    intro call entry hCall
    cases call <;> cases hCall
    exact hNext _
  · refine Table.keeps hDrop (keeps_filterMap ?_ _) _
    intro call entry hCall
    cases call <;> cases hCall
    exact hNext _

/-
  On a frame of operation 0x4 ingress drops, or it has got
  all of its entries.
-/
theorem ingressApply_take_cifra
    (dispositivos : List Dispositivo)
    (n : Nat)
    {s : IngressState}
    (hOper : s.oper = 0x4) :
    (ingressApply ((programa dispositivos).take n) s).dropCtl =
        true ∨
      (quantidadeInicial dispositivos < n ∧
        ingressApply ((programa dispositivos).take n) s =
          ingressApply (programa dispositivos) s) := by
  have hStep :
      ∀ calls : List BfrtCall,
        ingressApply calls s =
          (sequence (trilhaFinalizacao calls) s).state := by
    intro calls
    rw [ingressApply, if_neg (by rw [hOper]; decide),
      if_pos hOper]
  by_cases hAll : quantidadeInicial dispositivos + 13 ≤ n
  · refine Or.inr ⟨by omega, ?_⟩
    rw [hStep, hStep]
    simp only [trilhaFinalizacao, tblP4draIg0Fin,
      tblP4draIg1Fin, tblP4draIg2Fin, tblP4draIg3Fin,
      tblP4draIg4Fin, tblP4draIg5Fin, tblP4draIg6Fin,
      tblP4draIg7Fin, tblP4draIg8Fin]
    rw [filterMap_take_completa entradaP4draIg0Fin dispositivos
        hAll rfl,
      filterMap_take_completa _ dispositivos hAll rfl,
      filterMap_take_completa _ dispositivos hAll rfl,
      filterMap_take_completa _ dispositivos hAll rfl,
      filterMap_take_completa _ dispositivos hAll rfl,
      filterMap_take_completa _ dispositivos hAll rfl,
      filterMap_take_completa _ dispositivos hAll rfl,
      filterMap_take_completa _ dispositivos hAll rfl,
      filterMap_take_completa _ dispositivos hAll rfl]
  · left
    have hn : n ≤ quantidadeInicial dispositivos + 12 := by
      omega
    have hEntries :
        (tblP4draIg8Fin
          ((programa dispositivos).take n)).entries = [] := by
      unfold tblP4draIg8Fin
      exact
        filterMap_take_vazia _ dispositivos hn
          (fun _ _ _ => rfl) (fun _ _ _ => rfl) (fun _ => rfl)
          (fun _ => rfl) rfl
    generalize (programa dispositivos).take n = calls
      at hEntries
    have hLast :
        ∀ t : IngressState, True →
          ∃ t',
            (tblP4draIg8Fin calls).apply
                  (fun s =>
                    (s.metadata.verificacao0,
                      s.metadata.verificacao1,
                      s.metadata.verificacao2)) t =
                .exit t' ∧
              t'.dropCtl = true := by
      intro t _
      rcases (tblP4draIg8Fin calls).apply_cases
          (fun s =>
            (s.metadata.verificacao0, s.metadata.verificacao1,
              s.metadata.verificacao2)) t with
        hApply | ⟨entry, hMem, _⟩
      · rw [hApply]
        exact ⟨_, rfl, rfl⟩
      · rw [hEntries] at hMem
        cases hMem
    rcases exit_of_keeps (keeps_trilhaFinalizacao calls) hLast
        (s := s) trivial with
      ⟨t, hExit, ht⟩
    rw [hStep]
    exact (congrArg (fun flow => flow.state.dropCtl) hExit).trans ht

------------------------------------------------------------
-- Verification On Egress
------------------------------------------------------------

/- Without the last call of all egress lets no proof through. -/
theorem egressApply_take_verificacao
    (dispositivos : List Dispositivo)
    {m : Nat}
    (hm : m < (programa dispositivos).length)
    {s : EgressState}
    (hOper : s.oper ≠ 0x3) :
    (egressApply ((programa dispositivos).take m) s).dropCtl =
      true := by
  have hLength :
      (programa dispositivos).length =
        quantidadeInicial dispositivos + 15 := by
    have hPrograma :
        programa dispositivos =
          inicioDoPrograma dispositivos ++ regrasPadrao := rfl
    rw [hPrograma, List.length_append]
    rfl
  have hLate : m ≤ quantidadeInicial dispositivos + 14 := by
    omega
  have hEntries :
      (tblP4draEg1Fin
        ((programa dispositivos).take m)).entries = [] := by
    unfold tblP4draEg1Fin
    exact
      filterMap_take_vazia _ dispositivos hLate
        (fun _ _ _ => rfl) (fun _ _ _ => rfl) (fun _ => rfl)
        (fun _ => rfl) rfl
  generalize (programa dispositivos).take m = calls at hEntries
  let Q : EgressState → Prop := fun t => t.dropCtl = true
  have hFirst :
      ∀ statement ∈
          [(tblP4draEg0Fin calls).apply EgressState.oper],
        Keeps (fun _ => True) Q statement := by
    intro statement hMem
    rw [List.mem_singleton.mp hMem]
    refine
      Table.keeps (fun t _ => Or.inl ⟨_, rfl, trivial⟩)
        (keeps_filterMap ?_ _) _
    intro call entry hCall
    cases call with
    | eg0FinVerificarProva oper =>
        cases hCall
        exact fun t _ => Or.inl ⟨_, rfl, trivial⟩
    | _ => cases hCall
  have hLast :
      ∀ t : EgressState, True →
        ∃ t',
          (tblP4draEg1Fin calls).apply
                EgressState.verificacao t =
              .exit t' ∧
            Q t' := by
    intro t _
    rcases (tblP4draEg1Fin calls).apply_cases
        EgressState.verificacao t with
      hApply | ⟨entry, hMem, _⟩
    · rw [hApply]
      exact ⟨_, rfl, rfl⟩
    · rw [hEntries] at hMem
      cases hMem
  rcases exit_of_keeps hFirst hLast (s := s) trivial with
    ⟨t, hExit, ht⟩
  rw [egressApply, if_neg hOper]
  exact (congrArg (fun flow => flow.state.dropCtl) hExit).trans ht

------------------------------------------------------------
-- Passes Under A Part Of The Calls
------------------------------------------------------------

/- An operation other than zero comes from a P4DRA header. -/
theorem deP4DRA_of_oper
    {frame : Frame}
    {hdr : MyIngressHeadersT}
    {rest : List Byte}
    (hParse : ingressParser frame = some (hdr, rest))
    (hOper : (IngressState.init hdr).oper ≠ 0x0) :
    DeP4DRA frame := by
  by_contra hP4dra
  by_cases hLength : 14 ≤ frame.length
  · rcases exists_outroProtocolo hP4dra hLength with
      ⟨ethernet, corpo, rfl, hType⟩
    rw [ingressParser_outroProtocolo ethernet corpo hType]
      at hParse
    cases hParse
    exact hOper rfl
  · have hShort : ethernetH.extract frame = none :=
      (ethernetH.extract_eq_none_iff frame).mpr
        (Nat.lt_of_not_le hLength)
    rw [ingressParser, IngressParser.parseEthernet, hShort]
      at hParse
    cases hParse

/- A frame parsed with operation 0x3 is a state on its way. -/
theorem exists_estado_of_leitura
    {frame : Frame}
    {hdr : MyIngressHeadersT}
    {rest : List Byte}
    (hParse : ingressParser frame = some (hdr, rest))
    (hOper : (IngressState.init hdr).oper = 0x3) :
    ∃ c rodada v, frame = quadroEstado c rodada v rest :=
  estado_of_oper
    (deP4DRA_of_oper hParse (by rw [hOper]; decide)) hParse
    hOper

/- So does one with operation 0x4. -/
theorem exists_cifra_of_leitura
    {frame : Frame}
    {hdr : MyIngressHeadersT}
    {rest : List Byte}
    (hParse : ingressParser frame = some (hdr, rest))
    (hOper : (IngressState.init hdr).oper = 0x4) :
    ∃ c cipher payload,
      frame = quadroCifra c cipher payload rest := by
  have hP4dra :=
    deP4DRA_of_oper hParse (by rw [hOper]; decide)
  cases forma_of_ingressParser hP4dra hParse with
  | semId c oper hNot =>
      rw [ingressParser_quadroSemId c oper rest hNot] at hParse
      cases hParse
      exact absurd (Or.inr (Or.inr hOper)) hNot
  | resposta c =>
      rw [ingressParser_quadro] at hParse
      cases hParse
      cases hOper
  | estado c rodada v =>
      rw [ingressParser_quadroEstado] at hParse
      cases hParse
      cases hOper
  | cifra c cipher payload => exact ⟨c, cipher, payload, rfl⟩

/- Ingress gives nothing or what the finished program gives. -/
theorem ingressPass_take
    (dispositivos : List Dispositivo)
    (n : Nat)
    {frame : Frame}
    (hEstado :
      (∃ c rodada v corpo,
          frame = quadroEstado c rodada v corpo) →
        quantidadeInicial dispositivos ≤ n) :
    ingressPass ((programa dispositivos).take n) frame = none ∨
      (quantidadeInicial dispositivos ≤ n ∧
        ingressPass ((programa dispositivos).take n) frame =
          ingressPass (programa dispositivos) frame) := by
  cases hParse : ingressParser frame with
  | none =>
      left
      simp [ingressPass, hParse]
  | some parsed =>
      rcases parsed with ⟨hdr, rest⟩
      have hSame :
          ingressApply ((programa dispositivos).take n)
                (.init hdr) =
              ingressApply (programa dispositivos)
                (.init hdr) →
            ingressPass ((programa dispositivos).take n) frame =
              ingressPass (programa dispositivos) frame := by
        intro hApply
        simp [ingressPass, hParse, hApply]
      have hNone :
          (ingressApply ((programa dispositivos).take n)
                (.init hdr)).dropCtl = true ∨
              (ingressApply ((programa dispositivos).take n)
                (.init hdr)).ucastEgressPort = none →
            ingressPass ((programa dispositivos).take n) frame =
              none := by
        rintro (hDrop | hPort)
        · exact ingressPass_eq_none hParse hDrop
        · simp [ingressPass, hParse, hPort]
      by_cases hThree : (IngressState.init hdr).oper = 0x3
      · rcases exists_estado_of_leitura hParse hThree with
          ⟨c, rodada, v, hFrame⟩
        have hn := hEstado ⟨c, rodada, v, rest, hFrame⟩
        exact
          Or.inr
            ⟨hn,
              hSame
                (ingressApply_take_estado dispositivos hn
                  hThree)⟩
      · by_cases hFour : (IngressState.init hdr).oper = 0x4
        · rcases ingressApply_take_cifra dispositivos n hFour
            with hDrop | ⟨hn, hApply⟩
          · exact Or.inl (hNone (Or.inl hDrop))
          · exact Or.inr ⟨hn.le, hSame hApply⟩
        · rcases ingressApply_take_outra dispositivos n hThree
              hFour rfl with
            hDrop | hPort | ⟨hn, hApply⟩
          · exact Or.inl (hNone (Or.inl hDrop))
          · exact Or.inl (hNone (Or.inr hPort))
          · exact Or.inr ⟨hn.le, hSame hApply⟩

/- So does egress once the quarter-rounds are programmed. -/
theorem egressPass_take
    (dispositivos : List Dispositivo)
    {m : Nat}
    (hm : quantidadeInicial dispositivos ≤ m)
    (frame : Frame) :
    egressPass ((programa dispositivos).take m) frame = none ∨
      egressPass ((programa dispositivos).take m) frame =
        egressPass (programa dispositivos) frame := by
  cases hParse : egressParser frame with
  | none =>
      left
      simp [egressPass, hParse]
  | some parsed =>
      rcases parsed with ⟨hdr, rest⟩
      by_cases hThree : (EgressState.init hdr).oper = 0x3
      · right
        simp [egressPass, hParse,
          egressApply_take_estado dispositivos hm hThree]
      · by_cases hAll : m < (programa dispositivos).length
        · left
          simp [egressPass, hParse,
            egressApply_take_verificacao dispositivos hAll
              hThree]
        · right
          rw [List.take_of_length_le (by omega)]

/- A pass drops the frame, or both gresses were programmed. -/
theorem passagemDurante_cases
    (dispositivos : List Dispositivo)
    {n m : Nat}
    (hOrdem : n ≤ m)
    {frame : Frame}
    (hEstado :
      (∃ c rodada v corpo,
          frame = quadroEstado c rodada v corpo) →
        quantidadeInicial dispositivos ≤ n) :
    passagemDurante (programa dispositivos) n m frame = none ∨
      (quantidadeInicial dispositivos ≤ n ∧
        passagemDurante (programa dispositivos) n m frame =
          passagem (programa dispositivos) frame) := by
  rcases ingressPass_take dispositivos n hEstado with
    hNone | ⟨hn, hSame⟩
  · left
    rw [passagemDurante, hNone]
    rfl
  · rw [passagemDurante, passagem, hSame]
    cases hIngress :
        ingressPass (programa dispositivos) frame with
    | none => exact Or.inl rfl
    | some unicast =>
        simp only [Option.bind_eq_bind, Option.bind_some]
        split
        · exact Or.inr ⟨hn, rfl⟩
        · rcases egressPass_take dispositivos
              (Nat.le_trans hn hOrdem) unicast.frame with
            hEgress | hEgress
          · rw [hEgress]
            exact Or.inl rfl
          · rw [hEgress]
            exact Or.inr ⟨hn, rfl⟩

------------------------------------------------------------
-- Every Order Of Calls And Passes
------------------------------------------------------------

/- The refinement for a list of devices, from `k` calls on. -/
theorem processarDurante_programa
    (dispositivos : List Dispositivo)
    {agenda : List (Nat × Nat)} :
    ∀ {k : Nat} {frame : Frame} {resultado : Resultado},
      EmOrdem k agenda →
        ((∃ c rodada v corpo,
            frame = quadroEstado c rodada v corpo) →
          quantidadeInicial dispositivos ≤ k) →
        processarDurante (programa dispositivos) agenda frame =
          some resultado →
        resultado = .descartado ∨
          processar (programa dispositivos) agenda.length
              frame =
            some resultado := by
  induction agenda with
  | nil =>
      intro k frame resultado _ _ hRun
      cases hRun
  | cons passo agenda ih =>
      intro k frame resultado hOrdem hEstado hRun
      rcases passo with ⟨n, m⟩
      rcases hOrdem with ⟨hk, hn, hResto⟩
      rw [processarDurante] at hRun
      rcases passagemDurante_cases dispositivos hn
          (fun h => Nat.le_trans (hEstado h) hk) with
        hNone | ⟨hInicial, hSame⟩
      · rw [travessiaDurante, hNone] at hRun
        left
        exact (Option.some.inj hRun).symm
      · have hTravessia :
            travessiaDurante (programa dispositivos) n m frame =
              travessia (programa dispositivos) frame := by
          rw [travessiaDurante, hSame, travessia]
          cases passagem (programa dispositivos) frame <;> rfl
        rw [hTravessia] at hRun
        cases hStep :
            travessia (programa dispositivos) frame with
        | again seguinte =>
            rw [hStep] at hRun
            rcases ih hResto
                (fun _ => Nat.le_trans hInicial hn) hRun with
              hDrop | hLater
            · exact Or.inl hDrop
            · right
              exact
                (Recirculation.run_again agenda.length
                  hStep).trans hLater
        | done fim =>
            rw [hStep] at hRun
            right
            exact
              (Recirculation.run_done agenda.length
                hStep).trans hRun

/- After the last call frames are processed as ever. -/
theorem processarDurante_eq_processar
    (calls : List BfrtCall)
    {agenda : List (Nat × Nat)} :
    ∀ {frame : Frame},
      (∀ passo ∈ agenda,
        calls.length ≤ passo.1 ∧ calls.length ≤ passo.2) →
        processarDurante calls agenda frame =
          processar calls agenda.length frame := by
  induction agenda with
  | nil =>
      intro frame _
      rfl
  | cons passo agenda ih =>
      intro frame hFim
      rcases passo with ⟨n, m⟩
      have hPasso := hFim (n, m) List.mem_cons_self
      have hTravessia :
          travessiaDurante calls n m frame =
            travessia calls frame := by
        rw [travessiaDurante, passagemDurante,
          List.take_of_length_le hPasso.1,
          List.take_of_length_le hPasso.2, ← passagem,
          travessia]
        cases passagem calls frame <;> rfl
      rw [processarDurante, hTravessia]
      cases hStep : travessia calls frame with
      | again seguinte =>
          exact
            (ih (fun outro hOutro =>
              hFim outro (List.mem_cons_of_mem _ hOutro))).trans
              (Recirculation.run_again agenda.length
                hStep).symm
      | done fim =>
          exact
            (Recirculation.run_done agenda.length hStep).symm

/-
  A frame that comes from outside while the script runs is
  dropped, or it ends as it would after the script's end,
  however its passes and the calls alternate.
-/
theorem processarDurante_refina
    (confIni : Nat)
    (arquivo : List (List Char))
    (hConcluida : (setup confIni arquivo).concluida = true)
    {agenda : List (Nat × Nat)}
    (hOrdem : EmOrdem 0 agenda)
    {frame : Frame}
    (hFora :
      ∀ c rodada v corpo,
        frame ≠ quadroEstado c rodada v corpo)
    {resultado : Resultado}
    (hRun :
      processarDurante (setup confIni arquivo).calls agenda
          frame =
        some resultado) :
    resultado = .descartado ∨
      processar (setup confIni arquivo).calls agenda.length
          frame =
        some resultado := by
  rcases exists_calls_setup confIni arquivo with
    ⟨dispositivos, hCalls⟩
  rw [hConcluida, if_pos rfl] at hCalls
  rw [hCalls] at hRun ⊢
  exact
    processarDurante_programa dispositivos hOrdem
      (fun ⟨c, rodada, v, corpo, hFrame⟩ =>
        absurd hFrame (hFora c rodada v corpo))
      hRun

/- The pass of a sample frame after the last call. -/
def agendaInjetada : List (Nat × Nat) :=
  [((setup 5 arquivoDeUmaLinha).calls.length,
    (setup 5 arquivoDeUmaLinha).calls.length)]

theorem processarDurante_injetado :
    processarDurante (setup 5 arquivoDeUmaLinha).calls
        agendaInjetada
        (quadroCifra cabecalhoInjetado zeroState provaInjetada
          []) =
      some
        (.emitido portaCPU
          (quadroCifra cabecalhoInjetado provaInjetada
            provaInjetada [])) := by
  rw [processarDurante_eq_processar]
  · exact processar_injetado
  · intro passo hMem
    rw [List.mem_singleton.mp hMem]
    exact ⟨le_refl _, le_refl _⟩

theorem processarDurante_refina_injetado :
    processar (setup 5 arquivoDeUmaLinha).calls
        agendaInjetada.length
        (quadroCifra cabecalhoInjetado zeroState provaInjetada
          []) =
      some
        (.emitido portaCPU
          (quadroCifra cabecalhoInjetado provaInjetada
            provaInjetada [])) := by
  have hFora :
      ∀ c rodada v corpo,
        quadroCifra cabecalhoInjetado zeroState provaInjetada
            [] ≠
          quadroEstado c rodada v corpo := by
    intro c rodada v corpo hSame
    have hParse :=
      ingressParser_quadroCifra cabecalhoInjetado zeroState
        provaInjetada []
    rw [hSame, ingressParser_quadroEstado] at hParse
    have hOper :=
      congrArg
        (fun parsed => parsed.1.p4draOper.fields.oper)
        (Option.some.inj hParse)
    exact absurd (show (0x3 : BitVec 8) = 0x4 from hOper)
      (by decide)
  have hOrdem : EmOrdem 0 agendaInjetada :=
    ⟨Nat.zero_le _, le_refl _, trivial⟩
  rcases processarDurante_refina 5 arquivoDeUmaLinha
      concluida_umaLinha hOrdem hFora
      processarDurante_injetado with
    hDrop | hSame
  · cases hDrop
  · exact hSame

------------------------------------------------------------
-- Ports Under A Part Of The Calls
------------------------------------------------------------

/- Ingress leaves a port open or chooses a recirculation port. -/
def SoRecircula (s : IngressState) : Prop :=
  ∀ port,
    s.ucastEgressPort = some port →
      portaRecirculacao port = true

theorem keeps_onIngress
    (f : State → State) :
    Keeps SoRecircula SoRecircula (onIngress f) :=
  fun _ hs => Or.inl ⟨_, rfl, hs⟩

theorem keeps_lastIngress
    (f : State → State)
    {port : BitVec 9}
    (hPort : portaRecirculacao port = true) :
    Keeps SoRecircula SoRecircula (lastIngress f port) := by
  intro s _
  refine Or.inl ⟨_, rfl, ?_⟩
  intro outra hOutra
  rw [← Option.some.inj hOutra]
  exact hPort

/- Every quarter-round action of ingress is of these kinds. -/
theorem keeps_igQr
    (i : Fin 12) :
    Keeps SoRecircula SoRecircula (igQr0.get i) ∧
      Keeps SoRecircula SoRecircula (igQr2.get i) ∧
      Keeps SoRecircula SoRecircula (igQr4.get i) ∧
      Keeps SoRecircula SoRecircula (igQr6.get i) := by
  rcases i with ⟨i, hi⟩
  refine ⟨?_, ?_, ?_, ?_⟩ <;> interval_cases i
  all_goals
    first
      | exact keeps_onIngress _
      | refine keeps_lastIngress _ ?_
        rfl

theorem keeps_acaoForroIg
    {qr : Fin 8}
    {i : Fin 12}
    {acao : IngressState → Flow IngressState}
    (hAcao : acaoForroIg qr i = some acao) :
    Keeps SoRecircula SoRecircula acao := by
  rcases keeps_igQr i with ⟨hZero, hTwo, hFour, hSix⟩
  unfold acaoForroIg at hAcao
  split at hAcao
  · cases hAcao
    exact hZero
  · cases hAcao
    exact hTwo
  · cases hAcao
    exact hFour
  · cases hAcao
    exact hSix
  · cases hAcao

/- Whatever the rules, a state on its way stays inside. -/
theorem soRecircula_ingressApply
    (calls : List BfrtCall)
    {s : IngressState}
    (hOper : s.oper = 0x3)
    (hPort : s.ucastEgressPort = none) :
    SoRecircula (ingressApply calls s) := by
  have hNoAction :
      Keeps SoRecircula SoRecircula
        (noAction : IngressState → Flow IngressState) :=
    fun t ht => Or.inl ⟨t, rfl, ht⟩
  have hTable :
      ∀ statement ∈ quartoIngress calls,
        Keeps SoRecircula SoRecircula statement := by
    intro statement hMem
    rcases List.mem_map.mp hMem with ⟨i, _, hi⟩
    rw [← hi]
    apply Table.keeps
    · unfold tblForroIg
      dsimp only
      split
      · exact hNoAction
      · exact (keeps_igQr i).1
    · apply keeps_filterMap
      intro call entry hCall
      cases call with
      | forroIg j qr rodada =>
          rw [entradaForroIg] at hCall
          split at hCall
          · rcases Option.map_eq_some_iff.mp hCall with
              ⟨acao, hAcao, hEntry⟩
            rw [← hEntry]
            exact keeps_acaoForroIg hAcao
          · cases hCall
      | _ => cases hCall
  have hInit : SoRecircula s := by
    intro port hSome
    rw [hPort] at hSome
    cases hSome
  rw [ingressApply, if_pos hOper]
  rcases keeps_sequence hTable s hInit with
    ⟨t, hNext, ht⟩ | ⟨t, hExit, ht⟩
  · rw [hNext]
    exact ht
  · rw [hExit]
    exact ht

/- Ingress chooses no port of the controller. -/
def SemCPU (s : IngressState) : Prop :=
  s.ucastEgressPort ≠ some portaCPU

/- Loading and forwarding do not reach the controller. -/
theorem semCPU_ingressApply
    (dispositivos : List Dispositivo)
    (n : Nat)
    {s : IngressState}
    (hEstado : s.oper ≠ 0x3)
    (hCifra : s.oper ≠ 0x4)
    (hPort : s.ucastEgressPort = none) :
    SemCPU (ingressApply ((programa dispositivos).take n) s) := by
  have hNoAction :
      Keeps SemCPU SemCPU
        (noAction : IngressState → Flow IngressState) :=
    fun t ht => Or.inl ⟨t, rfl, ht⟩
  have hDrop : Keeps SemCPU SemCPU Ingress.drop :=
    fun t ht => Or.inr ⟨_, rfl, ht⟩
  have hForward :
      ∀ t : IngressState, t.ucastEgressPort = some 0 →
        SemCPU t := by
    intro t ht
    rw [SemCPU, ht]
    decide
  have hIg0 :
      ∀ entry ∈
          (tblP4draIg0
            ((programa dispositivos).take n)).entries,
        Keeps SemCPU SemCPU entry.2 := by
    intro entry hMem
    have hAll := (tblP4draIg0_parteInicial dispositivos n).subset hMem
    rw [tblP4draIg0_entries] at hAll
    rcases List.mem_append.mp hAll with hDevice | hDefault
    · rcases List.mem_map.mp hDevice with ⟨d, _, hd⟩
      rw [← hd]
      exact fun t ht => Or.inl ⟨_, rfl, ht⟩
    · simp only [List.mem_cons, List.not_mem_nil, or_false]
        at hDefault
      rcases hDefault with hd | hd
      · rw [hd]
        exact fun t _ => Or.inr ⟨_, rfl, hForward _ rfl⟩
      · rw [hd]
        exact fun t _ => Or.inr ⟨_, rfl, hForward _ rfl⟩
  generalize (programa dispositivos).take n = calls at hIg0 ⊢
  have hTables :
      ∀ statement ∈ trilhaInicializacao calls,
        Keeps SemCPU SemCPU statement := by
    intro statement hMem
    simp only [trilhaInicializacao, List.mem_cons,
      List.not_mem_nil, or_false] at hMem
    rcases hMem with h | h | h | h <;> rw [h]
    · exact Table.keeps hDrop hIg0 _
    · refine Table.keeps hNoAction (keeps_filterMap ?_ _) _
      intro call entry hCall
      cases call <;> cases hCall
      exact fun t ht => Or.inl ⟨_, rfl, ht⟩
    · refine Table.keeps hNoAction (keeps_filterMap ?_ _) _
      intro call entry hCall
      cases call <;> cases hCall
      exact fun t ht => Or.inl ⟨_, rfl, ht⟩
    · refine Table.keeps hNoAction (keeps_filterMap ?_ _) _
      intro call entry hCall
      cases call <;> cases hCall
      refine fun t _ => Or.inr ⟨_, rfl, ?_⟩
      show (some (68 + 128) : Option (BitVec 9)) ≠ some portaCPU
      decide
  have hInit : SemCPU s := by
    rw [SemCPU, hPort]
    exact (Option.some_ne_none portaCPU).symm
  rw [ingressApply, if_neg hEstado, if_neg hCifra]
  rcases keeps_sequence hTables s hInit with
    ⟨t, hNext, ht⟩ | ⟨t, hExit, ht⟩
  · rw [hNext]
    exact ht
  · rw [hExit]
    exact ht

/- The port that ingress chose, when a pass has a frame. -/
theorem ingressPass_of_travessiaDurante
    {calls : List BfrtCall}
    {n m : Nat}
    {frame saida : Frame}
    {port : BitVec 9}
    (hStep :
      travessiaDurante calls n m frame =
        .done (.emitido port saida)) :
    ∃ unicast,
      ingressPass (calls.take n) frame = some unicast ∧
        unicast.port = port ∧
        portaRecirculacao port = false ∧
        (unicast.bypassEgress = true ∨
          ∃ frame',
            egressPass (calls.take m) unicast.frame =
              some frame') := by
  unfold travessiaDurante passagemDurante at hStep
  cases hIngress : ingressPass (calls.take n) frame with
  | none =>
      rw [hIngress] at hStep
      cases hStep
  | some unicast =>
      have hDone :
          ∀ frame' : Frame,
            (if portaRecirculacao unicast.port then
                (Outcome.again frame' :
                  Outcome Frame Resultado)
              else
                .done (.emitido unicast.port frame')) =
                .done (.emitido port saida) →
              unicast.port = port ∧
                portaRecirculacao port = false := by
        intro frame' hIf
        split at hIf
        · cases hIf
        · rename_i hNot
          cases hIf
          exact ⟨rfl, Bool.not_eq_true _ ▸ hNot⟩
      rw [hIngress] at hStep
      simp only [Option.bind_eq_bind, Option.bind_some]
        at hStep
      by_cases hBypass : unicast.bypassEgress = true
      · rw [if_pos hBypass, Option.elim_some] at hStep
        rcases hDone unicast.frame hStep with ⟨hPort, hNot⟩
        exact ⟨unicast, rfl, hPort, hNot, Or.inl hBypass⟩
      · rw [if_neg hBypass] at hStep
        cases hEgress :
            egressPass (calls.take m) unicast.frame with
        | none =>
            rw [hEgress] at hStep
            cases hStep
        | some frame' =>
            rw [hEgress, Option.bind_some, Option.elim_some]
              at hStep
            rcases hDone frame' hStep with ⟨hPort, hNot⟩
            exact
              ⟨unicast, rfl, hPort, hNot, Or.inr ⟨frame', hEgress⟩⟩

/- The state that ingress leaves, when it gives a frame. -/
theorem ingressApply_of_ingressPass
    {calls : List BfrtCall}
    {frame : Frame}
    {unicast : Unicast}
    (hIngress : ingressPass calls frame = some unicast) :
    ∃ hdr rest,
      ingressParser frame = some (hdr, rest) ∧
        (ingressApply calls (.init hdr)).dropCtl = false ∧
        (ingressApply calls (.init hdr)).ucastEgressPort =
          some unicast.port := by
  cases hParse : ingressParser frame with
  | none => simp [ingressPass, hParse] at hIngress
  | some parsed =>
      rcases parsed with ⟨hdr, rest⟩
      refine ⟨hdr, rest, rfl, ?_⟩
      cases hDrop :
          (ingressApply calls (.init hdr)).dropCtl with
      | true => simp [ingressPass, hParse, hDrop] at hIngress
      | false =>
          cases hPort :
              (ingressApply calls
                (.init hdr)).ucastEgressPort with
          | none =>
              simp [ingressPass, hParse, hDrop, hPort]
                at hIngress
          | some port =>
              simp [ingressPass, hParse, hDrop, hPort]
                at hIngress
              rw [← hIngress]
              exact ⟨rfl, rfl⟩

/- Egress passes a cipher only after the last call. -/
theorem egressPass_take_cifra
    (dispositivos : List Dispositivo)
    {m : Nat}
    (hm : m < (programa dispositivos).length)
    (c : Cabecalho)
    (cipher payload : State)
    (rest : List Byte) :
    egressPass ((programa dispositivos).take m)
        (quadroCifra c cipher payload rest) =
      none := by
  have hBytes :
      quadroCifra c cipher payload rest =
        quadro c 0x4
          (forroStateCipherVerifyT.encode
              (cipherVerify cipher) ++
            (forroHalfPayloadT.encode (halfPayload payload) ++
              ((forroStateT.encode payload).drop 20 ++
                rest))) := by
    rw [encode_cipherVerify, encode_halfPayload,
      ← List.append_assoc (List.take 20 _),
      List.take_append_drop]
    rfl
  have hParse :=
    egressParser_cifra c (cipherVerify cipher)
      (halfPayload payload)
      ((forroStateT.encode payload).drop 20 ++ rest)
  rw [← hBytes] at hParse
  have hOper :
      (EgressState.init
        (c.egressCifra (cipherVerify cipher)
          (halfPayload payload))).oper ≠ 0x3 :=
    show (0x4 : BitVec 8) ≠ 0x3 by decide
  rw [egressPass_eq hParse rfl,
    egressApply_take_verificacao dispositivos hm hOper]
  rfl

/- One pass does not let a proof through before the last call. -/
theorem length_le_of_aceito
    (dispositivos : List Dispositivo)
    {n m : Nat}
    {frame saida : Frame}
    (hStep :
      travessiaDurante (programa dispositivos) n m frame =
        .done (.emitido portaCPU saida)) :
    (programa dispositivos).length ≤ m := by
  by_contra hShort
  rcases ingressPass_of_travessiaDurante hStep with
    ⟨unicast, hIngress, hPort, hNot, hEgress⟩
  rcases ingressApply_of_ingressPass hIngress with
    ⟨hdr, rest, hParse, hDrop, hUcast⟩
  rw [hPort] at hUcast
  by_cases hThree : (IngressState.init hdr).oper = 0x3
  · have hInside :=
      soRecircula_ingressApply
        ((programa dispositivos).take n) hThree rfl _ hUcast
    rw [hNot] at hInside
    cases hInside
  · by_cases hFour : (IngressState.init hdr).oper = 0x4
    · rcases ingressApply_take_cifra dispositivos n hFour with
        hDropped | ⟨hn, hApply⟩
      · rw [hDrop] at hDropped
        cases hDropped
      · rcases exists_cifra_of_leitura hParse hFour with
          ⟨c, cipher, payload, rfl⟩
        have hSame :
            ingressPass ((programa dispositivos).take n)
                (quadroCifra c cipher payload rest) =
              ingressPass (programa dispositivos)
                (quadroCifra c cipher payload rest) := by
          simp [ingressPass, hParse, hApply]
        rw [hSame, ingressPass_cifra dispositivos c cipher
          payload _ rest rfl] at hIngress
        split at hIngress
        · cases hIngress
          rcases hEgress with hBypass | ⟨frame', hFrame⟩
          · cases hBypass
          · rw [egressPass_take_cifra dispositivos
              (Nat.lt_of_not_le hShort)] at hFrame
            cases hFrame
        · cases hIngress
    · exact
        semCPU_ingressApply dispositivos n hThree hFour rfl
          hUcast

/-
  No frame whatever, not even one that looks as if it came
  from inside, reaches the controller before the script has
  made its last call.
-/
theorem aceito_so_no_fim
    (confIni : Nat)
    (arquivo : List (List Char))
    (hConcluida : (setup confIni arquivo).concluida = true)
    {agenda : List (Nat × Nat)}
    {frame saida : Frame}
    (hRun :
      processarDurante (setup confIni arquivo).calls agenda
          frame =
        some (.emitido portaCPU saida)) :
    ∃ passo ∈ agenda,
      (setup confIni arquivo).calls.length ≤ passo.2 := by
  rcases exists_calls_setup confIni arquivo with
    ⟨dispositivos, hCalls⟩
  rw [hConcluida, if_pos rfl] at hCalls
  rw [hCalls] at hRun ⊢
  induction agenda generalizing frame with
  | nil => cases hRun
  | cons passo agenda ih =>
      rcases passo with ⟨n, m⟩
      rw [processarDurante] at hRun
      cases hStep :
          travessiaDurante (programa dispositivos) n m frame
        with
      | again seguinte =>
          rw [hStep] at hRun
          rcases ih hRun with ⟨passo, hMem, hLate⟩
          exact ⟨passo, List.mem_cons_of_mem _ hMem, hLate⟩
      | done fim =>
          rw [hStep] at hRun
          rw [Option.some.inj hRun] at hStep
          exact
            ⟨(n, m), List.mem_cons_self,
              length_le_of_aceito dispositivos hStep⟩

theorem aceito_so_no_fim_injetado :
    ∃ passo ∈ agendaInjetada,
      (setup 5 arquivoDeUmaLinha).calls.length ≤ passo.2 :=
  aceito_so_no_fim 5 arquivoDeUmaLinha concluida_umaLinha
    processarDurante_injetado

------------------------------------------------------------
-- A Script That Does Not Come To Its End
------------------------------------------------------------

/- Before the default rules nothing leaves the switch. -/
theorem not_emitido_inicio
    (dispositivos : List Dispositivo)
    {n m : Nat}
    {frame saida : Frame}
    {port : BitVec 9} :
    travessiaDurante (inicioDoPrograma dispositivos) n m
        frame ≠
      .done (.emitido port saida) := by
  intro hStep
  rcases ingressPass_of_travessiaDurante hStep with
    ⟨unicast, hIngress, hPort, hNot, _⟩
  rcases ingressApply_of_ingressPass hIngress with
    ⟨hdr, rest, hParse, hDrop, hUcast⟩
  rw [hPort] at hUcast
  let k := min n (quantidadeInicial dispositivos)
  have hk : k ≤ quantidadeInicial dispositivos :=
    Nat.min_le_right _ _
  have hTake :
      (inicioDoPrograma dispositivos).take n =
        (programa dispositivos).take k := by
    rw [take_inicio dispositivos hk]
    exact List.take_eq_take_min
  rw [hTake] at hDrop hUcast
  by_cases hThree : (IngressState.init hdr).oper = 0x3
  · have hInside :=
      soRecircula_ingressApply
        ((programa dispositivos).take k) hThree rfl _ hUcast
    rw [hNot] at hInside
    cases hInside
  · by_cases hFour : (IngressState.init hdr).oper = 0x4
    · rcases ingressApply_take_cifra dispositivos k hFour with
        hDropped | ⟨hLate, _⟩
      · rw [hDrop] at hDropped
        cases hDropped
      · omega
    · rcases ingressApply_take_outra dispositivos k hThree
          hFour rfl with
        hDropped | hNone | ⟨hLate, _⟩
      · rw [hDrop] at hDropped
        cases hDropped
      · rw [hUcast] at hNone
        cases hNone
      · omega

/-
  When the script raises on a file, the switch lets no frame
  out, on no port and at no time.
-/
theorem nada_sai_sem_concluir
    (confIni : Nat)
    (arquivo : List (List Char))
    (hConcluida : (setup confIni arquivo).concluida = false)
    {agenda : List (Nat × Nat)}
    {frame : Frame}
    {resultado : Resultado}
    (hRun :
      processarDurante (setup confIni arquivo).calls agenda
          frame =
        some resultado) :
    resultado = .descartado := by
  rcases exists_calls_setup confIni arquivo with
    ⟨dispositivos, hCalls⟩
  rw [hConcluida, if_neg Bool.false_ne_true] at hCalls
  rw [hCalls] at hRun
  induction agenda generalizing frame with
  | nil => cases hRun
  | cons passo agenda ih =>
      rcases passo with ⟨n, m⟩
      rw [processarDurante] at hRun
      cases hStep :
          travessiaDurante (inicioDoPrograma dispositivos) n m
            frame with
      | again seguinte =>
          rw [hStep] at hRun
          exact ih hRun
      | done fim =>
          rw [hStep] at hRun
          rw [← Option.some.inj hRun]
          cases fim with
          | emitido port saida =>
              exact absurd hStep (not_emitido_inicio dispositivos)
          | descartado => rfl

/- A file without a key, and a proof that meets its rules. -/
theorem nada_sai_sem_concluir_semChave :
    ∃ resultado,
      processarDurante (setup 5 [['0', '0']]).calls
            [(700, 700)]
            (quadroCifra cabecalhoInjetado zeroState
              provaInjetada []) =
          some resultado ∧
        resultado = .descartado := by
  have hRun :
      (processarDurante (setup 5 [['0', '0']]).calls
          [(700, 700)]
          (quadroCifra cabecalhoInjetado zeroState
            provaInjetada [])).isSome = true := by
    decide +kernel
  rcases Option.isSome_iff_exists.mp hRun with
    ⟨resultado, hResultado⟩
  exact
    ⟨resultado, hResultado,
      nada_sai_sem_concluir 5 [['0', '0']] (by decide +kernel)
        hResultado⟩

end Tna

end P4dra
