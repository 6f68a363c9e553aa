import P4dra.Tna.Pipeline

/-
  What the tables hold after the controller script.

  A finished run of the script makes the quarter-round rules,
  two calls for each device and the default rules. Each table
  is then a short list of entries, whatever the devices are,
  except for the two that are keyed by the device.

  Main declarations:
    * `Dispositivo`, `programa`
    * `filterMap_programa`
    * `filterMap_rodadaIg`, `filterMap_rodadaEg`
-/

------------------------------------------------------------
-- Programmed Calls
------------------------------------------------------------

namespace P4dra

open MatchAction (Flow Table sequence)

namespace Tna

/- The parameters of the two calls for one device. -/
structure Dispositivo where
  idDispositivo : BitVec 128
  configuracao : BitVec 256
  key : Key
deriving DecidableEq, Repr

/- The two calls for one device. -/
def Dispositivo.chamadas (d : Dispositivo) : List BfrtCall :=
  [.ig0CarregarEstado0 0x2 d.idDispositivo d.configuracao d.key,
    .ig0FinFinalizarForro0 d.idDispositivo d.configuracao d.key]

/- The calls of a finished run for these devices. -/
def programa (dispositivos : List Dispositivo) : List BfrtCall :=
  regrasForro ++ dispositivos.flatMap Dispositivo.chamadas ++
    regrasPadrao

/- The rules that belong to a quarter-round. -/
def BfrtCall.deForro : BfrtCall → Bool
| .forroIg .. | .forroEg .. | .forroEg11Fin .. => true
| _ => false

theorem deForro_of_mem_regrasRodada
    {rodada : Nat}
    {call : BfrtCall}
    (hMem : call ∈ regrasRodada rodada) :
    call.deForro = true := by
  rcases List.mem_map.mp hMem with ⟨i, _, hCall⟩
  subst hCall
  split
  · rfl
  · rfl

theorem deForro_of_mem_regrasForro
    {call : BfrtCall}
    (hMem : call ∈ regrasForro) :
    call.deForro = true := by
  rcases List.mem_append.mp hMem with hRodada | hFin
  · rcases List.mem_flatMap.mp hRodada with ⟨r, _, hCall⟩
    exact deForro_of_mem_regrasRodada hCall
  · rw [List.mem_singleton.mp hFin]
    rfl

/- Tables of other kinds get nothing from the quarter-rounds. -/
theorem filterMap_programa
    {α : Type}
    (entrada : BfrtCall → Option α)
    (hIg : ∀ i qr rodada, entrada (.forroIg i qr rodada) = none)
    (hEg : ∀ i qr rodada, entrada (.forroEg i qr rodada) = none)
    (hFin : ∀ rodada, entrada (.forroEg11Fin rodada) = none)
    (dispositivos : List Dispositivo) :
    (programa dispositivos).filterMap entrada =
      dispositivos.flatMap
          (fun d => d.chamadas.filterMap entrada) ++
        regrasPadrao.filterMap entrada := by
  have hRegras : regrasForro.filterMap entrada = [] := by
    apply List.filterMap_eq_nil_iff.mpr
    intro call hMem
    have hForro := deForro_of_mem_regrasForro hMem
    cases call with
    | forroIg i qr rodada => exact hIg i qr rodada
    | forroEg i qr rodada => exact hEg i qr rodada
    | forroEg11Fin rodada => exact hFin rodada
    | _ => simp [BfrtCall.deForro] at hForro
  rw [programa, List.filterMap_append, List.filterMap_append,
    hRegras, List.nil_append, List.filterMap_flatMap]

/- Tables that no device has rules in get the default rules. -/
theorem filterMap_programa_padrao
    {α : Type}
    (entrada : BfrtCall → Option α)
    (hIg : ∀ i qr rodada, entrada (.forroIg i qr rodada) = none)
    (hEg : ∀ i qr rodada, entrada (.forroEg i qr rodada) = none)
    (hFin : ∀ rodada, entrada (.forroEg11Fin rodada) = none)
    (hDispositivo :
      ∀ d : Dispositivo, d.chamadas.filterMap entrada = [])
    (dispositivos : List Dispositivo) :
    (programa dispositivos).filterMap entrada =
      regrasPadrao.filterMap entrada := by
  rw [filterMap_programa entrada hIg hEg hFin]
  simp [hDispositivo]

/- The quarter-round tables get nothing from the other rules. -/
theorem filterMap_programa_forro
    {α : Type}
    (entrada : BfrtCall → Option α)
    (hOutras :
      ∀ call, call.deForro = false → entrada call = none)
    (dispositivos : List Dispositivo) :
    (programa dispositivos).filterMap entrada =
      regrasForro.filterMap entrada := by
  have hChamadas :
      (dispositivos.flatMap Dispositivo.chamadas).filterMap
        entrada = [] := by
    apply List.filterMap_eq_nil_iff.mpr
    intro call hMem
    rcases List.mem_flatMap.mp hMem with ⟨d, _, hCall⟩
    apply hOutras
    simp only [Dispositivo.chamadas, List.mem_cons,
      List.not_mem_nil, or_false] at hCall
    rcases hCall with hCall | hCall
    · rw [hCall]
      rfl
    · rw [hCall]
      rfl
  have hPadrao : regrasPadrao.filterMap entrada = [] := by
    apply List.filterMap_eq_nil_iff.mpr
    intro call hMem
    apply hOutras
    have hTodas :
        ∀ call ∈ regrasPadrao, call.deForro = false := by
      decide
    exact hTodas call hMem
  rw [programa, List.filterMap_append, List.filterMap_append,
    hChamadas, hPadrao, List.append_nil, List.append_nil]

------------------------------------------------------------
-- Quarter-Round Schedule
------------------------------------------------------------

/- The key and the quarter-round of a rule of `tbl_forro_ig<i>`. -/
def rodadaIg (i : Fin 12) : BfrtCall → Option (BitVec 8 × Fin 8)
| .forroIg j qr rodada =>
    if j = i then some (rodada, qr) else none
| _ => none

/-
  The key and the quarter-round of a rule of `tbl_forro_eg<i>`;
  the rule for the last stage of all has no quarter-round.
-/
def rodadaEg
    (i : Fin 12) :
    BfrtCall → Option (BitVec 8 × Option (Fin 8))
| .forroEg j qr rodada =>
    if j = i then some (rodada, some qr) else none
| .forroEg11Fin rodada =>
    if i = 11 then some (rodada, none) else none
| _ => none

/- The quarter-round that a value of `rodada` stands for. -/
def quartoDaRodada (rodada : BitVec 8) : Fin 8 :=
  Fin.ofNat 8 (rodada.toNat - 1)

/- The values `inicio, inicio + 2, ..` of `rodada`. -/
def rodadasAlternadas (inicio : Nat) : List (BitVec 8) :=
  (List.range' inicio 28 2).map (BitVec.ofNat 8)

/- What the script adds to `tbl_forro_ig<i>`, for every `i`. -/
theorem filterMap_rodadaIg :
    ∀ i : Fin 12,
      regrasForro.filterMap (rodadaIg i) =
        (rodadasAlternadas 1).map
          (fun rodada => (rodada, quartoDaRodada rodada)) := by
  decide +kernel

/- What the script adds to `tbl_forro_eg<i>`. -/
theorem filterMap_rodadaEg :
    ∀ i : Fin 12,
      regrasForro.filterMap (rodadaEg i) =
        (rodadasAlternadas 2).map
          (fun rodada =>
            (rodada,
              if rodada = 56 ∧ i = 11 then
                none
              else
                some (quartoDaRodada rodada))) := by
  decide +kernel

/- Ingress works on the odd values of `rodada` up to 55. -/
def rodadaImpar (rodada : BitVec 8) : Bool :=
  rodada.toNat % 2 = 1 && rodada.toNat < 56

/- Egress works on the even values of `rodada` up to 56. -/
def rodadaPar (rodada : BitVec 8) : Bool :=
  rodada.toNat % 2 = 0 && 0 < rodada.toNat &&
    rodada.toNat ≤ 56

/- One of those values is so many steps from the first. -/
theorem mem_rodadasAlternadas
    {inicio : Nat}
    (hInicio : inicio ≤ 200)
    (rodada : BitVec 8) :
    rodada ∈ rodadasAlternadas inicio ↔
      ∃ i < 28, rodada.toNat = inicio + 2 * i := by
  simp only [rodadasAlternadas, List.mem_map,
    List.mem_range']
  constructor
  · rintro ⟨n, ⟨i, hi, hn⟩, hRodada⟩
    refine ⟨i, hi, ?_⟩
    rw [← hRodada, hn, BitVec.toNat_ofNat]
    omega
  · rintro ⟨i, hi, hRodada⟩
    refine ⟨_, ⟨i, hi, rfl⟩, ?_⟩
    rw [← hRodada, BitVec.ofNat_toNat, BitVec.setWidth_eq]

theorem mem_rodadasAlternadas_one
    (rodada : BitVec 8) :
    rodada ∈ rodadasAlternadas 1 ↔
      rodadaImpar rodada = true := by
  rw [mem_rodadasAlternadas (by omega)]
  simp only [rodadaImpar, Bool.and_eq_true, decide_eq_true_eq]
  constructor
  · rintro ⟨i, hi, hRodada⟩
    omega
  · intro hImpar
    exact ⟨rodada.toNat / 2, by omega, by omega⟩

theorem mem_rodadasAlternadas_two
    (rodada : BitVec 8) :
    rodada ∈ rodadasAlternadas 2 ↔
      rodadaPar rodada = true := by
  rw [mem_rodadasAlternadas (by omega)]
  simp only [rodadaPar, Bool.and_eq_true, decide_eq_true_eq]
  constructor
  · rintro ⟨i, hi, hRodada⟩
    omega
  · intro hPar
    exact ⟨rodada.toNat / 2 - 1, by omega, by omega⟩

end Tna

end P4dra
