import P4dra.Optee.Service
import P4dra.Tools.VerificaRede

/-
  What the capture handlers read of a frame.

  A handler reads fields at fixed offsets and decides from
  them what to do. It runs here on two readers: the memory
  from the frame on, which always answers, and the frame
  itself, which has no byte from `caplen` on.

  Main declarations:
    * `Service.acao`, `Service.packetHandler_casos`
    * `VerificaRede.acao`, `VerificaRede.packetHandler_casos`
    * `Service.packetHandler_apos`,
      `VerificaRede.packetHandler_apos`
    * `RespeitaCaplen`, `respeitaCaplen_iff`
-/

------------------------------------------------------------
-- Readers
------------------------------------------------------------

namespace P4dra

open Bytes (Byte slice)
open Tna (Frame)

namespace Tools

/- The bytes of a field at an offset. -/
abbrev Leitor := Nat → Nat → Option (List Byte)

def lerMemoria (memoria : List Byte) : Leitor :=
  fun offset size => some (slice offset size memoria)

def lerQuadro (frame : Frame) : Leitor :=
  fun offset size =>
    if offset + size ≤ frame.length then
      some (slice offset size frame)
    else
      none

/- A field inside the frame is the one in memory. -/
theorem lerMemoria_of_lerQuadro
    {frame : Frame}
    (apos : List Byte)
    {offset size : Nat}
    {bytes : List Byte}
    (hLer : lerQuadro frame offset size = some bytes) :
    lerMemoria (frame ++ apos) offset size = some bytes := by
  unfold lerQuadro at hLer
  by_cases hInside : offset + size ≤ frame.length
  · rw [if_pos hInside] at hLer
    unfold lerMemoria
    rw [Bytes.slice_append_of_le apos hInside]
    exact hLer
  · rw [if_neg hInside] at hLer
    contradiction

/- The same for a read and what is done with its bytes. -/
theorem bind_lerMemoria
    {α : Type}
    {frame : Frame}
    (apos : List Byte)
    {offset size : Nat}
    {f g : List Byte → Option α}
    {a : α}
    (hApos : ∀ bytes, f bytes = some a → g bytes = some a) :
    (lerQuadro frame offset size).bind f = some a →
      (lerMemoria (frame ++ apos) offset size).bind g =
        some a := by
  intro hLido
  rcases Option.bind_eq_some_iff.mp hLido with
    ⟨bytes, hBytes, hResto⟩
  rw [lerMemoria_of_lerQuadro apos hBytes]
  exact hApos bytes hResto

theorem lerQuadro_dentro
    {frame : Frame}
    {offset size : Nat}
    (hInside : offset + size ≤ frame.length) :
    lerQuadro frame offset size =
      some (slice offset size frame) := by
  unfold lerQuadro
  rw [if_pos hInside]

theorem lerQuadro_fora
    {frame : Frame}
    {offset size : Nat}
    (hOutside : ¬ offset + size ≤ frame.length) :
    lerQuadro frame offset size = none := by
  unfold lerQuadro
  rw [if_neg hOutside]

end Tools

------------------------------------------------------------
-- The Service
------------------------------------------------------------

namespace Optee

open Tools

namespace Service

/- What `packet_handler` does, on the fields that it uses. -/
inductive Acao where
  | nenhuma
  | pedido (dhost shost idRodada : List Byte)
  | setup (chave idDispositivo : List Byte)
deriving DecidableEq, Repr

/- The reads of `packet_handler`. -/
def acao (ler : Leitor) : Option Acao := do
  let tipo ← ler 12 2
  if tipo = etherTypeCustom then
    -- converted to digits before `oper` is looked at
    let idRodada ← ler 15 16
    let oper ← ler 14 1
    if oper = [0x1] then
      let dhost ← ler 0 6
      let shost ← ler 6 6
      some (.pedido dhost shost idRodada)
    else if oper = [0x5] then
      let chave ← ler 31 32
      let idDispositivo ← ler 63 16
      some (.setup chave idDispositivo)
    else
      some .nenhuma
  else
    some .nenhuma

/- In memory every read answers. -/
theorem acao_lerMemoria
    (packet : List Byte) :
    acao (lerMemoria packet) =
      some
        (if etherType packet = etherTypeCustom then
          if operHdrOper packet = [0x1] then
            .pedido (etherDhost packet) (etherShost packet)
              (operHdrIdRodada packet)
          else if operHdrOper packet = [0x5] then
            .setup (setupChave packet)
              (setupIdDispositivo packet)
          else
            .nenhuma
        else
          .nenhuma) := by
  unfold acao lerMemoria etherType operHdrOper
  simp only [Option.bind_eq_bind, Option.bind_some]
  split_ifs with hType hPedido hSetup
  · rfl
  · rfl
  · rfl
  · rfl

/- What is read inside the frame is read in memory. -/
theorem acao_lerMemoria_append
    {frame : Frame}
    (apos : List Byte)
    {lida : Acao} :
    acao (lerQuadro frame) = some lida →
      acao (lerMemoria (frame ++ apos)) = some lida := by
  unfold acao
  apply bind_lerMemoria
  intro tipo
  split_ifs with hType
  · apply bind_lerMemoria
    intro idRodada
    apply bind_lerMemoria
    intro oper
    split_ifs with hPedido hSetup
    · apply bind_lerMemoria
      intro dhost
      apply bind_lerMemoria
      intro shost
      exact id
    · apply bind_lerMemoria
      intro chave
      apply bind_lerMemoria
      intro idDispositivo
      exact id
    · exact id
  · exact id

/- The frames whose fields are all inside. -/
theorem isSome_acao_lerQuadro_iff
    {frame : Frame}
    (hMin : 14 ≤ frame.length) :
    (acao (lerQuadro frame)).isSome ↔
      (etherType frame = etherTypeCustom →
        31 ≤ frame.length ∧
          (operHdrOper frame = [0x5] → 79 ≤ frame.length)) := by
  have hTipo := @lerQuadro_dentro frame 12 2 (by omega)
  have hDhost := @lerQuadro_dentro frame 0 6 (by omega)
  have hShost := @lerQuadro_dentro frame 6 6 (by omega)
  unfold acao
  rw [hTipo, hDhost, hShost]
  simp only [Option.bind_eq_bind, Option.bind_some]
  by_cases hType : slice 12 2 frame = etherTypeCustom
  · rw [if_pos hType]
    by_cases hHeader : 31 ≤ frame.length
    · rw [@lerQuadro_dentro frame 15 16 (by omega),
        @lerQuadro_dentro frame 14 1 (by omega)]
      simp only [Option.bind_some]
      by_cases hPedido : slice 14 1 frame = [0x1]
      · rw [if_pos hPedido]
        refine iff_of_true rfl (fun _ => ⟨hHeader, ?_⟩)
        intro hSetup
        have hBoth := hPedido.symm.trans hSetup
        contradiction
      · rw [if_neg hPedido]
        by_cases hSetup : slice 14 1 frame = [0x5]
        · rw [if_pos hSetup]
          by_cases hLong : 79 ≤ frame.length
          · rw [@lerQuadro_dentro frame 31 32 (by omega),
              @lerQuadro_dentro frame 63 16 (by omega)]
            exact
              iff_of_true rfl
                (fun _ => ⟨hHeader, fun _ => hLong⟩)
          · have hNone :
                ((lerQuadro frame 31 32).bind fun chave =>
                  (lerQuadro frame 63 16).bind fun id =>
                    some (Acao.setup chave id)) = none := by
              rw [@lerQuadro_fora frame 63 16 (by omega)]
              cases lerQuadro frame 31 32 with
              | none => rfl
              | some chave => rfl
            rw [hNone]
            refine iff_of_false (by simp) ?_
            intro hAll
            exact hLong ((hAll hType).2 hSetup)
        · rw [if_neg hSetup]
          refine iff_of_true rfl (fun _ => ⟨hHeader, ?_⟩)
          intro hFive
          exact absurd hFive hSetup
    · rw [@lerQuadro_fora frame 15 16 (by omega)]
      refine iff_of_false (by simp) ?_
      intro hAll
      exact hHeader (hAll hType).1
  · rw [if_neg hType]
    exact iff_of_true rfl (fun hFrame => absurd hFrame hType)

/- The handler does what the fields that it reads say. -/
theorem packetHandler_casos
    (packet : List Byte) :
    (acao (lerMemoria packet) = some .nenhuma ∧
        ∀ amb estado,
          packetHandler amb estado packet =
            some (estado, .nada)) ∨
      (acao (lerMemoria packet) =
          some
            (.pedido (etherDhost packet) (etherShost packet)
              (operHdrIdRodada packet)) ∧
        ∀ amb estado,
          packetHandler amb estado packet =
            tratarPedido amb estado packet) ∨
      (acao (lerMemoria packet) =
          some
            (.setup (setupChave packet)
              (setupIdDispositivo packet)) ∧
        ∀ amb estado,
          packetHandler amb estado packet =
            tratarSetup amb estado packet) := by
  rw [acao_lerMemoria]
  by_cases hType : etherType packet = etherTypeCustom
  · by_cases hPedido : operHdrOper packet = [0x1]
    · refine Or.inr (Or.inl ⟨?_, ?_⟩)
      · rw [if_pos hType, if_pos hPedido]
      · intro amb estado
        unfold packetHandler
        rw [if_pos hType, if_pos hPedido]
    · by_cases hSetup : operHdrOper packet = [0x5]
      · refine Or.inr (Or.inr ⟨?_, ?_⟩)
        · rw [if_pos hType, if_neg hPedido, if_pos hSetup]
        · intro amb estado
          unfold packetHandler
          rw [if_pos hType, if_neg hPedido, if_pos hSetup]
      · refine Or.inl ⟨?_, ?_⟩
        · rw [if_pos hType, if_neg hPedido, if_neg hSetup]
        · intro amb estado
          unfold packetHandler
          rw [if_pos hType, if_neg hPedido, if_neg hSetup]
  · refine Or.inl ⟨?_, ?_⟩
    · rw [if_neg hType]
    · intro amb estado
      unfold packetHandler
      rw [if_neg hType]

/- No other byte of the memory makes a difference. -/
theorem packetHandler_congr
    {packet outro : List Byte}
    (amb : Ambiente)
    (estado : Estado)
    (hAcao : acao (lerMemoria packet) = acao (lerMemoria outro)) :
    packetHandler amb estado packet =
      packetHandler amb estado outro := by
  rcases packetHandler_casos packet with
    ⟨hA, hH⟩ | ⟨hA, hH⟩ | ⟨hA, hH⟩
  · rcases packetHandler_casos outro with
      ⟨hA', hH'⟩ | ⟨hA', hH'⟩ | ⟨hA', hH'⟩
    · rw [hH, hH']
    · simp [hA, hA'] at hAcao
    · simp [hA, hA'] at hAcao
  · rcases packetHandler_casos outro with
      ⟨hA', hH'⟩ | ⟨hA', hH'⟩ | ⟨hA', hH'⟩
    · simp [hA, hA'] at hAcao
    · rw [hA, hA'] at hAcao
      simp only [Option.some.injEq, Acao.pedido.injEq] at hAcao
      rcases hAcao with ⟨hDhost, hShost, hRodada⟩
      rw [hH, hH']
      unfold tratarPedido
      rw [hDhost, hShost, hRodada]
    · simp [hA, hA'] at hAcao
  · rcases packetHandler_casos outro with
      ⟨hA', hH'⟩ | ⟨hA', hH'⟩ | ⟨hA', hH'⟩
    · simp [hA, hA'] at hAcao
    · simp [hA, hA'] at hAcao
    · rw [hA, hA'] at hAcao
      simp only [Option.some.injEq, Acao.setup.injEq] at hAcao
      rcases hAcao with ⟨hChave, hId⟩
      rw [hH, hH']
      unfold tratarSetup
      rw [hChave, hId]

/- What lies behind a frame that is long enough is not used. -/
theorem packetHandler_apos
    {frame : Frame}
    (amb : Ambiente)
    (estado : Estado)
    (apos outro : List Byte)
    (hDentro : (acao (lerQuadro frame)).isSome) :
    packetHandler amb estado (frame ++ apos) =
      packetHandler amb estado (frame ++ outro) := by
  rcases Option.isSome_iff_exists.mp hDentro with ⟨lida, hLida⟩
  apply packetHandler_congr
  rw [acao_lerMemoria_append apos hLida,
    acao_lerMemoria_append outro hLida]

end Service

end Optee

------------------------------------------------------------
-- The Verifier
------------------------------------------------------------

namespace Tools

namespace VerificaRede

/- What `packet_handler` does, on the fields that it uses. -/
inductive Acao where
  | nenhuma
  | resposta
      (dhost shost idRodada idDispositivo prova : List Byte)
deriving DecidableEq, Repr

/- The reads of `packet_handler`. -/
def acao (ler : Leitor) : Option Acao := do
  let tipo ← ler 12 2
  if tipo = etherTypeCustom then
    let idRodada ← ler 15 16
    let oper ← ler 14 1
    if oper = [0x2] then
      let idDispositivo ← ler 31 16
      let prova ← ler 47 64
      let dhost ← ler 0 6
      let shost ← ler 6 6
      some (.resposta dhost shost idRodada idDispositivo prova)
    else
      some .nenhuma
  else
    some .nenhuma

theorem acao_lerMemoria
    (packet : List Byte) :
    acao (lerMemoria packet) =
      some
        (if etherType packet = etherTypeCustom then
          if operHdrOper packet = [0x2] then
            .resposta (etherDhost packet) (etherShost packet)
              (operHdrIdRodada packet)
              (replyIdDispositivo packet) (replyProva packet)
          else
            .nenhuma
        else
          .nenhuma) := by
  unfold acao lerMemoria etherType operHdrOper
  simp only [Option.bind_eq_bind, Option.bind_some]
  split_ifs with hType hResposta
  · rfl
  · rfl
  · rfl

theorem acao_lerMemoria_append
    {frame : Frame}
    (apos : List Byte)
    {lida : Acao} :
    acao (lerQuadro frame) = some lida →
      acao (lerMemoria (frame ++ apos)) = some lida := by
  unfold acao
  apply bind_lerMemoria
  intro tipo
  split_ifs with hType
  · apply bind_lerMemoria
    intro idRodada
    apply bind_lerMemoria
    intro oper
    split_ifs with hResposta
    · apply bind_lerMemoria
      intro idDispositivo
      apply bind_lerMemoria
      intro prova
      apply bind_lerMemoria
      intro dhost
      apply bind_lerMemoria
      intro shost
      exact id
    · exact id
  · exact id

/- The frames whose fields are all inside. -/
theorem isSome_acao_lerQuadro_iff
    {frame : Frame}
    (hMin : 14 ≤ frame.length) :
    (acao (lerQuadro frame)).isSome ↔
      (etherType frame = etherTypeCustom →
        31 ≤ frame.length ∧
          (operHdrOper frame = [0x2] → 111 ≤ frame.length)) := by
  have hTipo := @lerQuadro_dentro frame 12 2 (by omega)
  have hDhost := @lerQuadro_dentro frame 0 6 (by omega)
  have hShost := @lerQuadro_dentro frame 6 6 (by omega)
  unfold acao
  rw [hTipo, hDhost, hShost]
  simp only [Option.bind_eq_bind, Option.bind_some]
  by_cases hType : slice 12 2 frame = etherTypeCustom
  · rw [if_pos hType]
    by_cases hHeader : 31 ≤ frame.length
    · rw [@lerQuadro_dentro frame 15 16 (by omega),
        @lerQuadro_dentro frame 14 1 (by omega)]
      simp only [Option.bind_some]
      by_cases hResposta : slice 14 1 frame = [0x2]
      · rw [if_pos hResposta]
        by_cases hLong : 111 ≤ frame.length
        · rw [@lerQuadro_dentro frame 31 16 (by omega),
            @lerQuadro_dentro frame 47 64 (by omega)]
          exact
            iff_of_true rfl (fun _ => ⟨hHeader, fun _ => hLong⟩)
        · rw [@lerQuadro_fora frame 47 64 (by omega)]
          simp only [Option.bind_none, Option.bind_fun_none]
          refine iff_of_false (by simp) ?_
          intro hAll
          exact hLong ((hAll hType).2 hResposta)
      · rw [if_neg hResposta]
        refine iff_of_true rfl (fun _ => ⟨hHeader, ?_⟩)
        intro hTwo
        exact absurd hTwo hResposta
    · rw [@lerQuadro_fora frame 15 16 (by omega)]
      refine iff_of_false (by simp) ?_
      intro hAll
      exact hHeader (hAll hType).1
  · rw [if_neg hType]
    exact iff_of_true rfl (fun hFrame => absurd hFrame hType)

theorem packetHandler_casos
    (packet : List Byte) :
    (acao (lerMemoria packet) = some .nenhuma ∧
        ∀ dados totalPacotes memoria heap estado,
          packetHandler dados totalPacotes memoria heap estado
              packet =
            (estado, none)) ∨
      (acao (lerMemoria packet) =
          some
            (.resposta (etherDhost packet) (etherShost packet)
              (operHdrIdRodada packet)
              (replyIdDispositivo packet)
              (replyProva packet)) ∧
        ∀ dados totalPacotes memoria heap estado,
          packetHandler dados totalPacotes memoria heap estado
              packet =
            ({ contadorPacotes := estado.contadorPacotes + 1
               interrompido :=
                estado.interrompido ||
                  estado.contadorPacotes + 1 = totalPacotes },
              pacoteVerificacao memoria heap packet
                (buscarPorIdDireto dados estado.contadorPacotes)
                ['0'])) := by
  rw [acao_lerMemoria]
  by_cases hType : etherType packet = etherTypeCustom
  · by_cases hResposta : operHdrOper packet = [0x2]
    · refine Or.inr ⟨?_, ?_⟩
      · rw [if_pos hType, if_pos hResposta]
      · intro dados totalPacotes memoria heap estado
        unfold packetHandler
        rw [if_pos ⟨hType, hResposta⟩]
    · refine Or.inl ⟨?_, ?_⟩
      · rw [if_pos hType, if_neg hResposta]
      · intro dados totalPacotes memoria heap estado
        unfold packetHandler
        rw [if_neg (fun hBoth => hResposta hBoth.2)]
  · refine Or.inl ⟨?_, ?_⟩
    · rw [if_neg hType]
    · intro dados totalPacotes memoria heap estado
      unfold packetHandler
      rw [if_neg (fun hBoth => hType hBoth.1)]

/- No other byte of the memory makes a difference. -/
theorem packetHandler_congr
    {packet outro : List Byte}
    (dados : Dados)
    (totalPacotes : BitVec 32)
    (memoria : ForroArgsDra.Memoria)
    (heap : List Char)
    (estado : Estado)
    (hAcao : acao (lerMemoria packet) = acao (lerMemoria outro)) :
    packetHandler dados totalPacotes memoria heap estado packet =
      packetHandler dados totalPacotes memoria heap estado
        outro := by
  rcases packetHandler_casos packet with ⟨hA, hH⟩ | ⟨hA, hH⟩
  · rcases packetHandler_casos outro with
      ⟨hA', hH'⟩ | ⟨hA', hH'⟩
    · rw [hH, hH']
    · simp [hA, hA'] at hAcao
  · rcases packetHandler_casos outro with
      ⟨hA', hH'⟩ | ⟨hA', hH'⟩
    · simp [hA, hA'] at hAcao
    · rw [hA, hA'] at hAcao
      simp only [Option.some.injEq, Acao.resposta.injEq] at hAcao
      rcases hAcao with ⟨hDhost, hShost, hRodada, hId, hProva⟩
      rw [hH, hH']
      unfold pacoteVerificacao
      rw [hDhost, hShost, hRodada, hId, hProva]

theorem packetHandler_apos
    {frame : Frame}
    (dados : Dados)
    (totalPacotes : BitVec 32)
    (memoria : ForroArgsDra.Memoria)
    (heap : List Char)
    (estado : Estado)
    (apos outro : List Byte)
    (hDentro : (acao (lerQuadro frame)).isSome) :
    packetHandler dados totalPacotes memoria heap estado
        (frame ++ apos) =
      packetHandler dados totalPacotes memoria heap estado
        (frame ++ outro) := by
  rcases Option.isSome_iff_exists.mp hDentro with ⟨lida, hLida⟩
  apply packetHandler_congr
  rw [acao_lerMemoria_append apos hLida,
    acao_lerMemoria_append outro hLida]

end VerificaRede

------------------------------------------------------------
-- Captured Lengths
------------------------------------------------------------

/- `sizeof` of the headers that a value of `oper` implies. -/
def tamanhoCabecalhos (oper : List Byte) : Nat :=
  if oper = [0x5] then
    14 + 17 + 48
  else if oper = [0x2] then
    14 + 17 + 80
  else
    14 + 17

/- A frame of the protocol that is short of its headers. -/
def Curto (frame : Frame) : Prop :=
  etherType frame = etherTypeCustom ∧
    frame.length < tamanhoCabecalhos (operHdrOper frame)

/-
  A handler reads inside the frame, and does nothing with a
  short one, whatever lies behind it in memory.
-/
def RespeitaCaplen
    {Acao : Type}
    (acao : Leitor → Option Acao)
    (nenhuma : Acao)
    (frame : Frame) : Prop :=
  (acao (lerQuadro frame)).isSome ∧
    (Curto frame →
      ∀ apos, acao (lerMemoria (frame ++ apos)) = some nenhuma)

end Tools

namespace Optee

open Tools

/- Both capture handlers respect the length of a frame. -/
def HandlersRespeitam (frame : Frame) : Prop :=
  RespeitaCaplen Service.acao .nenhuma frame ∧
    RespeitaCaplen VerificaRede.acao .nenhuma frame

/- The service acts on a short frame that has an `oper`. -/
theorem Service.acao_curto
    {frame : Frame}
    (hLength : 15 ≤ frame.length)
    (hType : etherType frame = etherTypeCustom)
    (hOper :
      operHdrOper frame = [0x1] ∨ operHdrOper frame = [0x5])
    (apos : List Byte) :
    acao (lerMemoria (frame ++ apos)) ≠ some .nenhuma := by
  have hTypeMem :
      etherType (frame ++ apos) = etherTypeCustom := by
    rw [← hType]
    exact Bytes.slice_append_of_le apos (by omega)
  have hOperMem :
      operHdrOper (frame ++ apos) = operHdrOper frame :=
    Bytes.slice_append_of_le apos (by omega)
  rw [acao_lerMemoria, if_pos hTypeMem, hOperMem]
  rcases hOper with hPedido | hSetup
  · rw [if_pos hPedido]
    simp
  · rw [hSetup]
    simp

/-
  The handlers respect the length exactly when the frame is
  of another protocol or has the headers of its `oper`.
-/
theorem respeitaCaplen_iff
    (frame : Frame)
    (hMin : 14 ≤ frame.length) :
    HandlersRespeitam frame ↔
      etherType frame ≠ etherTypeCustom ∨
        (31 ≤ frame.length ∧
          (operHdrOper frame = [0x5] → 79 ≤ frame.length) ∧
          (operHdrOper frame = [0x2] →
            111 ≤ frame.length)) := by
  have hService := Service.isSome_acao_lerQuadro_iff hMin
  have hVerifica := VerificaRede.isSome_acao_lerQuadro_iff hMin
  constructor
  · intro hRespeitam
    have hS := hService.mp hRespeitam.1.1
    have hV := hVerifica.mp hRespeitam.2.1
    by_cases hType : etherType frame = etherTypeCustom
    · exact Or.inr ⟨(hS hType).1, (hS hType).2, (hV hType).2⟩
    · exact Or.inl hType
  · intro hCond
    have hLongo : ¬ Curto frame := by
      rintro ⟨hType, hCurto⟩
      rcases hCond with hOutro | ⟨hHeader, hSetup, hResposta⟩
      · exact hOutro hType
      · unfold tamanhoCabecalhos at hCurto
        split_ifs at hCurto with hFive hTwo
        · have hLong := hSetup hFive
          omega
        · have hLong := hResposta hTwo
          omega
        · omega
    have hCampos :
        etherType frame = etherTypeCustom →
          31 ≤ frame.length ∧
            (operHdrOper frame = [0x5] → 79 ≤ frame.length) ∧
            (operHdrOper frame = [0x2] →
              111 ≤ frame.length) := by
      intro hType
      rcases hCond with hOutro | hDentro
      · contradiction
      · exact hDentro
    refine ⟨⟨?_, ?_⟩, ⟨?_, ?_⟩⟩
    · apply hService.mpr
      intro hType
      exact ⟨(hCampos hType).1, (hCampos hType).2.1⟩
    · intro hCurto
      contradiction
    · apply hVerifica.mpr
      intro hType
      exact ⟨(hCampos hType).1, (hCampos hType).2.2⟩
    · intro hCurto
      contradiction

/- A Request that ends with its header. -/
def pedidoExato : Frame :=
  List.replicate 12 0 ++ (etherTypeCustom ++
    ([0x1] ++ List.replicate 16 0))

theorem respeitaCaplen_iff_pedidoExato :
    14 ≤ pedidoExato.length ∧
      HandlersRespeitam pedidoExato := by
  have hMin : 14 ≤ pedidoExato.length := by decide
  refine ⟨hMin, (respeitaCaplen_iff pedidoExato hMin).mpr ?_⟩
  exact Or.inr ⟨by decide, by decide, by decide⟩

/- A Setup of the length that Ethernet pads to. -/
def setupDeSessenta : Frame :=
  List.replicate 12 0 ++ (etherTypeCustom ++
    ([0x5] ++ List.replicate 45 0))

theorem not_respeitaCaplen_setupDeSessenta :
    ¬ ∀ frame : Frame,
      14 ≤ frame.length → frame.length ≤ 176 →
        HandlersRespeitam frame := by
  intro hTodos
  have hRespeitam :=
    hTodos setupDeSessenta (by decide) (by decide)
  have hFora :
      Service.acao (lerQuadro setupDeSessenta) = none := by
    decide
  have hLidos := hRespeitam.1.1
  rw [hFora] at hLidos
  contradiction

end Optee

end P4dra
