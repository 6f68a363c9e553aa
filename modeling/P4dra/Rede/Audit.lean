import P4dra.Rede.Agreement
import P4dra.Tools.NetworkLog

/-
  What the log of the controller's port proves.

  `le_p4dra_rede` prints a line for every frame on the port.
  In a run without forged frames each line has the digits of
  one proof twice, and a service sent that proof before.

  Main declarations:
    * `aceitos`, `Capturados`, `linhaDaAceitacao`
    * `registro_dos_aceitos`
-/

------------------------------------------------------------
-- Captured Acceptances
------------------------------------------------------------

namespace P4dra

open Bytes (Byte)
open Tna (Cabecalho Frame quadroResposta quadroCifra portaCPU)
open Tools (mac)
open Tools.LeP4draRede (Linha linhaDe linhas registro)
open Transition (Step exec)

namespace Rede

variable {ι : Type}

/- The frame that a step gives to the controller. -/
def aceitoDe
    (x : Step (Estado ι) (Evento ι) Saida) : Option Frame :=
  match x.output with
  | .resultado (some (.emitido port frame)) =>
      if port = portaCPU then some frame else none
  | _ => none

/- The frames on the port of the controller, in order. -/
def aceitos
    (steps : List (Step (Estado ι) (Evento ι) Saida)) :
    List Frame :=
  steps.filterMap aceitoDe

/- Each frame was captured, with anything behind it. -/
def Capturados
    (frames : List Frame)
    (capturas : List (Nat × List Byte)) : Prop :=
  List.Forall₂ (fun frame c => ∃ resto, c.2 = frame ++ resto)
    frames capturas

/- The line of an acceptance has the proof twice. -/
def linhaDaAceitacao
    (micros : Nat)
    (c : Cabecalho)
    (prova : State) : Linha where
  micros := micros
  shost := mac c.srcAddr
  dhost := mac c.dstAddr
  oper := 0x4
  idRodada := c.bytesIdRodada
  corpo :=
    [c.bytesIdDispositivo, Tna.forroStateT.encode prova,
      Tna.forroStateT.encode prova]

theorem output_of_aceitoDe
    {x : Step (Estado ι) (Evento ι) Saida}
    {frame : Frame}
    (hAceito : aceitoDe x = some frame) :
    x.output = .resultado (some (.emitido portaCPU frame)) := by
  unfold aceitoDe at hAceito
  split at hAceito
  · rename_i port emitted hOutput
    split at hAceito
    · rename_i hPort
      cases hAceito
      rw [hOutput, hPort]
    · cases hAceito
  · cases hAceito

theorem aceitoDe_of_output
    {x : Step (Estado ι) (Evento ι) Saida}
    {frame : Frame}
    (hOutput :
      x.output = .resultado (some (.emitido portaCPU frame))) :
    aceitoDe x = some frame := by
  rw [aceitoDe, hOutput]
  exact if_pos rfl

/- The lines of frames that hold one proof twice. -/
theorem linhas_of_capturados
    {frames : List Frame}
    {capturas : List (Nat × List Byte)}
    {De : Cabecalho → State → Prop}
    (hCapturados : Capturados frames capturas)
    (hFrames :
      ∀ frame ∈ frames,
        ∃ c prova,
          frame = quadroCifra c prova prova [] ∧ De c prova) :
    (∀ c ∈ capturas, 12 ≤ c.2.length) ∧
      (linhas capturas).map Linha.micros =
        capturas.map Prod.fst ∧
      List.Forall₂
        (fun frame linha =>
          ∃ c prova,
            frame = quadroCifra c prova prova [] ∧
              linha = linhaDaAceitacao linha.micros c prova ∧
              De c prova)
        frames (linhas capturas) := by
  induction hCapturados with
  | nil =>
      refine ⟨?_, rfl, List.Forall₂.nil⟩
      intro c hc
      cases hc
  | @cons frame captura frames capturas hCaptura _ ih =>
      rcases hFrames frame List.mem_cons_self with
        ⟨c, prova, hFrame, hDe⟩
      rcases ih
          (fun other hOther =>
            hFrames other (List.mem_cons_of_mem _ hOther)) with
        ⟨hLongos, hTempos, hLinhas⟩
      rcases hCaptura with ⟨resto, hResto⟩
      have hLinha :
          linhaDe captura.1 captura.2 =
            some (linhaDaAceitacao captura.1 c prova) := by
        rw [hResto, hFrame]
        exact
          Tools.LeP4draRede.linhaDe_quadroCifra captura.1 c
            prova prova resto
      have hCons :
          linhas (captura :: capturas) =
            linhaDaAceitacao captura.1 c prova ::
              linhas capturas := by
        rw [linhas, List.filterMap_cons, hLinha]
        rfl
      have hLongo : 12 ≤ captura.2.length := by
        have hFrente := Tna.length_quadroSemId c 0x4 []
        have hSplit :
            quadroCifra c prova prova [] =
              Tna.quadroSemId c 0x4 [] ++
                (c.bytesIdDispositivo ++
                  (Tna.forroStateT.encode prova ++
                    (Tna.forroStateT.encode prova ++ []))) := by
          simp only [quadroCifra, Tna.quadro, Tna.quadroSemId,
            Tna.Cabecalho.bytesIdDispositivo, List.append_assoc,
            List.append_nil]
        rw [hResto, hFrame, hSplit, List.length_append,
          List.length_append]
        omega
      rw [hCons]
      refine ⟨?_, ?_, ?_⟩
      · intro other hOther
        rcases List.mem_cons.mp hOther with hSame | hRest
        · rw [hSame]
          exact hLongo
        · exact hLongos other hRest
      · rw [List.map_cons, List.map_cons, hTempos]
        rfl
      · exact
          List.Forall₂.cons ⟨c, prova, hFrame, rfl, hDe⟩ hLinhas

------------------------------------------------------------
-- Audit
------------------------------------------------------------

/-
  The log has one line for each acceptance of the run, in
  order and with the time of its capture. A line names a
  record of the file, both its proofs are the record's for
  the line's round, and a service sent the Reply with it.
-/
theorem registro_dos_aceitos
    [DecidableEq ι]
    {confIni : Nat}
    (hConf : confIni < 2 ^ 256)
    {registros : List Registro}
    (hArquivo : ArquivoValido registros)
    {rede last : Estado ι}
    (hInicial : Inicial rede)
    {eventos : List (Evento ι)}
    {steps : List (Step (Estado ι) (Evento ι) Saida)}
    (hRun :
      exec
          (tratar
            (Tna.setup confIni
              (registros.map Registro.texto)).calls)
          rede eventos =
        some (last, steps))
    (hSemForja : ∀ x ∈ steps, SemForja x)
    {capturas : List (Nat × List Byte)}
    (hCapturados : Capturados (aceitos steps) capturas) :
    ∃ impressas : List Linha,
      registro capturas =
          Terminated.join '\n' (impressas.map Linha.texto) ∧
        impressas.map Linha.micros = capturas.map Prod.fst ∧
        List.Forall₂
          (fun aceito linha =>
            ∃ c prova,
              aceito = quadroCifra c prova prova [] ∧
                linha =
                  linhaDaAceitacao linha.micros c prova ∧
                ProvaDe confIni registros c prova ∧
                ∃ x ∈ steps,
                  Respondeu x (quadroResposta c prova []))
          (aceitos steps) impressas := by
  have hExplicadas :=
    explicada_of_exec hConf hArquivo hInicial hRun hSemForja
  have hFrames :
      ∀ frame ∈ aceitos steps,
        ∃ c prova,
          frame = quadroCifra c prova prova [] ∧
            ProvaDe confIni registros c prova ∧
            ∃ x ∈ steps,
              Respondeu x (quadroResposta c prova []) := by
    intro frame hFrame
    rcases List.mem_filterMap.mp hFrame with ⟨y, hy, hAceito⟩
    rcases List.append_of_mem hy with ⟨antes, depois, hSplit⟩
    rcases hExplicadas antes y depois hSplit frame
        (output_of_aceitoDe hAceito) with
      ⟨c, prova, hSame, hProva, x, hx, hRespondeu⟩
    have hMem : x ∈ steps := by
      rw [hSplit]
      exact List.mem_append_left _ hx
    exact ⟨c, prova, hSame, hProva, x, hMem, hRespondeu⟩
  rcases linhas_of_capturados hCapturados hFrames with
    ⟨hLongos, hTempos, hLinhas⟩
  exact
    ⟨linhas capturas, Tools.LeP4draRede.registro_eq hLongos,
      hTempos, hLinhas⟩

/- The log of the sample round is not empty. -/
theorem registro_dos_aceitos_exemplo :
    ∃ (capturas : List (Nat × List Byte)) (linha : Linha),
      ∃ impressas : List Linha,
        registro capturas =
            Terminated.join '\n'
              (linha.texto :: impressas.map Linha.texto) ∧
          ∃ c prova,
            linha = linhaDaAceitacao linha.micros c prova ∧
              ProvaDe 0 [registroExemplo] c prova := by
  rcases exec_exemplo with ⟨last, antes, y, hRun, hAceito⟩
  let capturas :=
    (aceitos (antes ++ [y])).map (fun frame => (0, frame))
  have hCapturados :
      Capturados (aceitos (antes ++ [y])) capturas := by
    apply List.forall₂_map_right_iff.mpr
    apply List.forall₂_same.mpr
    intro frame _
    exact ⟨[], (List.append_nil frame).symm⟩
  have hMem :
      aceitacaoDe startExemplo registroExemplo ∈
        aceitos (antes ++ [y]) :=
    List.mem_filterMap.mpr
      ⟨y, List.mem_append_right _ List.mem_cons_self,
        aceitoDe_of_output hAceito⟩
  rcases registro_dos_aceitos (by decide) arquivoValido_exemplo
      inicial_redeExemplo hRun (semForja_exemplo hRun)
      hCapturados with
    ⟨impressas, hRegistro, _, hLinhas⟩
  generalize aceitos (antes ++ [y]) = frames at hMem hLinhas
  cases hLinhas with
  | nil => cases hMem
  | @cons _ linha _ resto hLinha hResto =>
      rcases hLinha with ⟨c, prova, _, hLinha, hProva, _⟩
      exact
        ⟨capturas, linha, resto, hRegistro, c, prova, hLinha,
          hProva⟩

end Rede

end P4dra
