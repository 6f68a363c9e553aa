import P4dra.Tna.InitialState

/-
  The switch computes and compares the proof of `forro`.

  For a device file from which the controller script has
  programmed the switch, a proof is sent to the controller
  exactly when its identifier has a line and its words are
  the output of `forro` on the state of that line. On the way
  the frame holds the state vector of `forro`, two quarter-
  rounds further after every pass.

  Main declarations:
    * `quadroResposta`, `quadroResposta_of_length`
    * `processar_eq_forro`
-/

------------------------------------------------------------
-- Replies
------------------------------------------------------------

namespace P4dra

open Bytes (Byte)
open Recirculation

namespace Tna

/- A Reply frame: a proof and what may follow it. -/
def quadroResposta
    (c : Cabecalho)
    (payload : State)
    (rest : List Byte) : Frame :=
  quadro c 0x2 (forroStateT.encode payload ++ rest)

/-
  Every P4DRA frame of operation 0x2 with 64 bytes after the
  identifier is a Reply frame.
-/
theorem quadroResposta_of_length
    {c : Cabecalho}
    {corpo : List Byte}
    (hLength : 64 ≤ corpo.length) :
    ∃ payload rest,
      quadro c 0x2 corpo = quadroResposta c payload rest := by
  cases hPayload : forroStateT.extract corpo with
  | none =>
      have hShort :=
        (forroStateT.extract_eq_none_iff corpo).mp hPayload
      have hSize : forroStateT.size = 64 := rfl
      omega
  | some parsed =>
      rcases parsed with ⟨payload, rest⟩
      refine ⟨payload, rest, ?_⟩
      rw [quadroResposta, ← Codec.eq_append_of_extract hPayload]

------------------------------------------------------------
-- Verification
------------------------------------------------------------

/- The switch accepts the output of `forro`, and only that. -/
theorem processar_eq_forro
    (confIni : Nat)
    (arquivo : List (List Char))
    (linhas : List Linha)
    (hConcluida : (setup confIni arquivo).concluida = true)
    (hLinhas :
      processFile arquivo quantidadeDispositivos = some linhas)
    (hIds : (linhas.map idDaLinha).Nodup)
    (hChaves : ∀ linha ∈ linhas, ChaveHex linha.chave)
    (c : Cabecalho)
    (payload : State)
    (rest : List Byte)
    (fuel : Nat)
    (hFuel : 30 ≤ fuel) :
    (∀ linha ∈ linhas,
      idDaLinha linha = some (c.idDispositivo.toNat : Int) →
        ∀ init,
          init =
              estadoForro (bytesDaChave linha.chave)
                (BitVec.ofNat 256 confIni) c →
            processar (setup confIni arquivo).calls fuel
                (quadroResposta c payload rest) =
              some
                (if payload = Forro.forroWords init then
                  .emitido portaCPU
                    (quadroCifra c payload payload rest)
                else
                  .descartado) ∧
            (∀ k ≤ 28,
              advance (travessia (setup confIni arquivo).calls)
                  (1 + k) (quadroResposta c payload rest) =
                some
                  (quadroApos c init
                    (forroStateT.encode payload ++ rest)
                    (2 * k))) ∧
            ∀ k < 28,
              ingressPass (setup confIni arquivo).calls
                  (quadroApos c init
                    (forroStateT.encode payload ++ rest)
                    (2 * k)) =
                some
                  { port :=
                      portaIngress (BitVec.ofNat 8 (2 * k + 1))
                    bypassEgress := false
                    frame :=
                      quadroApos c init
                        (forroStateT.encode payload ++ rest)
                        (2 * k + 1) }) ∧
      ((∀ linha ∈ linhas,
          idDaLinha linha ≠
            some (c.idDispositivo.toNat : Int)) →
        processar (setup confIni arquivo).calls fuel
            (quadroResposta c payload rest) =
          some .descartado) := by
  rcases setup_calls hConcluida hLinhas hChaves with
    ⟨dispositivos, hEntradas, hCalls⟩
  have hRun :=
    processar_resposta dispositivos c payload rest fuel hFuel
  rw [hCalls]
  constructor
  · intro linha hMem hId init hInit
    rcases procurar_of_linha hEntradas hIds hMem hId with
      ⟨d, hProcurar, hEstado⟩
    have hLoaded : d.estadoInicial c = init :=
      hEstado.trans hInit.symm
    refine ⟨?_, ?_, ?_⟩
    · rw [resultadoResposta, hProcurar] at hRun
      simp only [hLoaded] at hRun
      exact hRun
    · intro k hk
      have hAdvance :=
        advance_resposta
          (forroStateT.encode payload ++ rest) hProcurar k hk
      rw [hLoaded] at hAdvance
      exact hAdvance
    · intro k hk
      exact ingressPass_quadroApos dispositivos c init _ k hk
  · intro hAbsent
    rw [resultadoResposta, procurar_eq_none hEntradas hAbsent]
      at hRun
    exact hRun

/- A file of one line and its lines as the script reads them. -/
def arquivoDeUmaLinha : List (List Char) :=
  [("30303030303031383430343936393332:" ++
    "7c8121dd59d29489b0ba66113a107caa" ++
    "4443ad0f1d508cb11b471a9552b06f8d:00\n").toList]

def linhaUnica : Linha :=
  { idDispositivo := "30303030303031383430343936393332".toList
    chave :=
      partesDaChave
        ("7c8121dd59d29489b0ba66113a107caa" ++
          "4443ad0f1d508cb11b471a9552b06f8d").toList }

theorem concluida_umaLinha :
    (setup 5 arquivoDeUmaLinha).concluida = true := by
  decide +kernel

theorem processFile_umaLinha :
    processFile arquivoDeUmaLinha quantidadeDispositivos =
      some [linhaUnica] := by
  decide +kernel

theorem chaveHex_linhaUnica :
    ∀ linha ∈ [linhaUnica], ChaveHex linha.chave := by
  intro linha hMem
  rw [List.mem_singleton.mp hMem]
  exact ⟨_, by decide +kernel, by decide +kernel, rfl⟩

/- The fields of a Reply frame of that record. -/
def cabecalhoDaLinha : Cabecalho :=
  { dstAddr := 1
    srcAddr := 2
    idRodada0 := 3
    idRodada1 := 4
    idRodada2 := 5
    idRodada3 := 6
    idDispositivo := 0x30303030383130303934303432333936 }

/- The proof of that record. -/
def provaDaLinha : State :=
  Forro.forroWords
    (estadoForro (bytesDaChave linhaUnica.chave)
      (BitVec.ofNat 256 5) cabecalhoDaLinha)

theorem processar_eq_forro_umaLinha :
    processar (setup 5 arquivoDeUmaLinha).calls 30
        (quadroResposta cabecalhoDaLinha provaDaLinha []) =
      some
        (.emitido portaCPU
          (quadroCifra cabecalhoDaLinha provaDaLinha
            provaDaLinha [])) := by
  have hAccepted :=
    ((processar_eq_forro 5 arquivoDeUmaLinha [linhaUnica]
      concluida_umaLinha processFile_umaLinha
      (by decide +kernel) chaveHex_linhaUnica
      cabecalhoDaLinha provaDaLinha [] 30 (by decide)).1
      linhaUnica (by simp) (by decide +kernel) _ rfl).1
  rw [hAccepted]
  exact congrArg some (if_pos rfl)

end Tna

end P4dra
