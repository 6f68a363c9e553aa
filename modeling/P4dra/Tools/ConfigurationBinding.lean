import P4dra.Tools.VerifierCorrectness

/-
  What an accepted proof says about the configuration.

  Words 0, 1, 4 and 5 of a configuration enter the state only
  together with `id_rodada`, which the switch takes from the
  Reply; the other words only with the identifier. A proof is
  accepted when the two states agree, or when the cipher maps
  two different states to the same words.

  Main declarations:
    * `Compensada`, `estadoForro_eq_iff`
    * `Colisao`
    * `aceita_medida_iff`
-/

------------------------------------------------------------
-- Equal States
------------------------------------------------------------

namespace P4dra

open Bytes (Byte slice swapWords)
open Tna (Cabecalho Frame quadroResposta)

namespace Tools

/- Two states with one output. -/
def Colisao (v w : State) : Prop :=
  v ≠ w ∧ Forro.forroWords v = Forro.forroWords w

/-
  Words 2, 3, 6 and 7 agree, and in the other words the two
  values of `id_rodada` make up for the difference.
-/
structure Compensada
    (configuracao medida : BitVec 256)
    (c pedido : Cabecalho) : Prop where
  word0 :
    medida.extractLsb 255 224 ^^^ pedido.idRodada0 =
      configuracao.extractLsb 255 224 ^^^ c.idRodada0
  word1 :
    medida.extractLsb 223 192 ^^^ pedido.idRodada1 =
      configuracao.extractLsb 223 192 ^^^ c.idRodada1
  word2 :
    medida.extractLsb 191 160 = configuracao.extractLsb 191 160
  word3 :
    medida.extractLsb 159 128 = configuracao.extractLsb 159 128
  word4 :
    medida.extractLsb 127 96 ^^^ pedido.idRodada2 =
      configuracao.extractLsb 127 96 ^^^ c.idRodada2
  word5 :
    medida.extractLsb 95 64 ^^^ pedido.idRodada3 =
      configuracao.extractLsb 95 64 ^^^ c.idRodada3
  word6 :
    medida.extractLsb 63 32 = configuracao.extractLsb 63 32
  word7 :
    medida.extractLsb 31 0 = configuracao.extractLsb 31 0

/- States are equal word by word. -/
theorem state_eq_iff
    (a0 a1 a2 a3 a4 a5 a6 a7 a8 a9 a10 a11 a12 a13 a14 a15
      b0 b1 b2 b3 b4 b5 b6 b7 b8 b9 b10 b11 b12 b13 b14 b15 :
        Word) :
    (#v[a0, a1, a2, a3, a4, a5, a6, a7, a8, a9, a10, a11, a12,
        a13, a14, a15] : State) =
        #v[b0, b1, b2, b3, b4, b5, b6, b7, b8, b9, b10, b11,
          b12, b13, b14, b15] ↔
      (a0 = b0 ∧ a1 = b1 ∧ a2 = b2 ∧ a3 = b3) ∧
        (a4 = b4 ∧ a5 = b5 ∧ a6 = b6 ∧ a7 = b7) ∧
        (a8 = b8 ∧ a9 = b9 ∧ a10 = b10 ∧ a11 = b11) ∧
        a12 = b12 ∧ a13 = b13 ∧ a14 = b14 ∧ a15 = b15 := by
  simp [and_assoc]

theorem xor_right_inj
    {w : Nat}
    {a b m : BitVec w} :
    a ^^^ m = b ^^^ m ↔ a = b := by
  constructor
  · intro hXor
    have hBoth := congrArg (· ^^^ m) hXor
    simpa [BitVec.xor_assoc] using hBoth
  · intro hSame
    rw [hSame]

/- The states agree exactly for compensated configurations. -/
theorem estadoForro_eq_iff
    (chave : List Byte)
    (configuracao medida : BitVec 256)
    {c pedido : Cabecalho}
    (hId : pedido.idDispositivo = c.idDispositivo) :
    Tna.estadoForro chave medida pedido =
        Tna.estadoForro chave configuracao c ↔
      Compensada configuracao medida c pedido := by
  rw [Tna.estadoForro, Tna.estadoForro, state_eq_iff, hId,
    xor_right_inj, xor_right_inj, xor_right_inj, xor_right_inj]
  constructor
  · rintro ⟨_, ⟨h4, h5, h6, h7⟩, _, h12, h13, h14, h15⟩
    exact ⟨h4, h5, h6, h7, h12, h13, h14, h15⟩
  · intro h
    exact
      ⟨⟨rfl, rfl, rfl, rfl⟩,
        ⟨h.word0, h.word1, h.word2, h.word3⟩,
        ⟨rfl, rfl, rfl, rfl⟩,
        h.word4, h.word5, h.word6, h.word7⟩

/- Words make up the configuration. -/
theorem eq_of_extractLsb'
    {v w : BitVec 256}
    (hWords : ∀ k < 8,
      v.extractLsb' (32 * k) 32 = w.extractLsb' (32 * k) 32) :
    v = w := by
  apply BitVec.eq_of_getLsbD_eq
  intro i hi
  have hBit :=
    congrArg (fun word => word.getLsbD (i % 32))
      (hWords (i / 32) (by omega))
  have hMod : i % 32 < 32 := Nat.mod_lt _ (by decide)
  have hIndex : 32 * (i / 32) + i % 32 = i := Nat.div_add_mod i 32
  simpa [BitVec.getLsbD_extractLsb', hMod, hIndex] using hBit

/- With one `id_rodada` the configurations are equal. -/
theorem medida_eq_of_compensada
    {configuracao medida : BitVec 256}
    {c pedido : Cabecalho}
    (hRodada : pedido.bytesIdRodada = c.bytesIdRodada)
    (hCompensada : Compensada configuracao medida c pedido) :
    medida = configuracao := by
  have hFields :
      pedido.idRodada0 = c.idRodada0 ∧
        pedido.idRodada1 = c.idRodada1 ∧
        pedido.idRodada2 = c.idRodada2 ∧
        pedido.idRodada3 = c.idRodada3 := by
    rcases List.append_inj hRodada (by simp) with
      ⟨h0, hRest⟩
    rcases List.append_inj hRest (by simp) with ⟨h1, hRest⟩
    rcases List.append_inj hRest (by simp) with ⟨h2, h3⟩
    exact
      ⟨Tna.word.encode_injective h0,
        Tna.word.encode_injective h1,
        Tna.word.encode_injective h2,
        Tna.word.encode_injective h3⟩
  rcases hFields with ⟨h0, h1, h2, h3⟩
  have hWord0 := hCompensada.word0
  have hWord1 := hCompensada.word1
  have hWord4 := hCompensada.word4
  have hWord5 := hCompensada.word5
  rw [h0] at hWord0
  rw [h1] at hWord1
  rw [h2] at hWord4
  rw [h3] at hWord5
  apply eq_of_extractLsb'
  intro k hk
  interval_cases k
  · exact hCompensada.word7
  · exact hCompensada.word6
  · exact xor_right_inj.mp hWord5
  · exact xor_right_inj.mp hWord4
  · exact hCompensada.word3
  · exact hCompensada.word2
  · exact xor_right_inj.mp hWord1
  · exact xor_right_inj.mp hWord0

/- Different bytes are different configurations. -/
theorem configuracaoDaMedida_injective
    {bytes others : List Byte}
    (hBytes : bytes.length = 32)
    (hOthers : others.length = 32)
    (hSame :
      Tna.configuracaoDaMedida bytes =
        Tna.configuracaoDaMedida others) :
    bytes = others := by
  have hSwapped : ∀ xs : List Byte, xs.length = 32 →
      (Codec.bits 32).encode (Tna.configuracaoDaMedida xs) =
        swapWords xs := by
    intro xs hLength
    exact (Codec.bits 32).encode_decode (swapWords xs)
      ((Bytes.length_swapWords xs).trans hLength)
  rw [← Bytes.swapWords_swapWords bytes,
    ← hSwapped bytes hBytes, hSame, hSwapped others hOthers,
    Bytes.swapWords_swapWords]

------------------------------------------------------------
-- Accepted Measurements
------------------------------------------------------------

open VerificaRede (palavrasVerificacao confIniDaMedida)

/- A measured proof is compared with the expected one. -/
theorem aceita_medida
    {memoria : ForroArgsDra.Memoria}
    (hMemoria : memoria.Limpa)
    (configuracao : List Char)
    {medida : List Char}
    (hHexMedida : Hex.IsHex medida)
    (hLengthMedida : medida.length = 64)
    {registros : List Registro}
    (hArquivo : ArquivoValido registros)
    {r : Registro}
    (hMem : r ∈ registros)
    {c pedido : Cabecalho}
    (hDoRegistro : c.DoRegistro r)
    {saida : List Char}
    (hSaida :
      ForroArgsDra.main memoria
          (palavrasVerificacao r.chave medida pedido) =
        some saida)
    {payload : State}
    (hPayload :
      Tna.forroStateT.encode payload =
        Hex.decode (swapEndian saida provaLen))
    (rest : List Byte) :
    Tna.Aceita
        (Tna.setup (confIniDaMedida configuracao)
          (registros.map Registro.texto)).calls
        (quadroResposta c payload rest) ↔
      Forro.forroWords
          (Tna.estadoForro r.bytesChave
            (Tna.configuracaoDaMedida (Hex.decode medida))
            pedido) =
        Forro.forroWords
          (Tna.estadoForro r.bytesChave
            (Tna.configuracaoDaMedida
              (Hex.decode configuracao)) c) := by
  have hConf : confIniDaMedida configuracao < 2 ^ 256 :=
    BitVec.isLt _
  have hMain :=
    VerificaRede.main_palavrasVerificacao hMemoria r.hexChave
      r.lengthChave hHexMedida hLengthMedida pedido
  have hAceita :=
    Tna.aceita_registro hConf hArquivo hMem hDoRegistro payload
      rest
  rw [hMain] at hSaida
  cases hSaida
  rw [VerificaRede.decode_swapEndian_forro] at hPayload
  rw [hAceita, VerificaRede.ofNat_confIniDaMedida,
    Tna.forroStateT.encode_injective hPayload]
  exact Iff.rfl

theorem idDispositivo_eq
    {c pedido : Cabecalho}
    {r : Registro}
    (hDoRegistro : c.DoRegistro r)
    (hPedido : pedido.DoRegistro r) :
    pedido.idDispositivo = c.idDispositivo := by
  have hBytes := hPedido.trans hDoRegistro.symm
  exact congrArg Tna.P4draIdDispositivoT.idDispositivo
    (Tna.p4draIdDispositivoT.encode_injective hBytes)

/-
  A proof that the proof program printed for a measured
  configuration and the header `pedido` is accepted under the
  header `c` exactly when the configurations are compensated
  or the two states collide.
-/
theorem aceita_medida_iff
    {memoria : ForroArgsDra.Memoria}
    (hMemoria : memoria.Limpa)
    {configuracao medida : List Char}
    (hLength : configuracao.length = 64)
    (hHexMedida : Hex.IsHex medida)
    (hLengthMedida : medida.length = 64)
    {registros : List Registro}
    (hArquivo : ArquivoValido registros)
    {r : Registro}
    (hMem : r ∈ registros)
    {c pedido : Cabecalho}
    (hDoRegistro : c.DoRegistro r)
    (hPedido : pedido.DoRegistro r)
    {saida : List Char}
    (hSaida :
      ForroArgsDra.main memoria
          (palavrasVerificacao r.chave medida pedido) =
        some saida)
    {payload : State}
    (hPayload :
      Tna.forroStateT.encode payload =
        Hex.decode (swapEndian saida provaLen))
    (rest : List Byte) :
    (Tna.Aceita
          (Tna.setup (confIniDaMedida configuracao)
            (registros.map Registro.texto)).calls
          (quadroResposta c payload rest) ↔
        Compensada
            (Tna.configuracaoDaMedida (Hex.decode configuracao))
            (Tna.configuracaoDaMedida (Hex.decode medida)) c
            pedido ∨
          Colisao
            (Tna.estadoForro r.bytesChave
              (Tna.configuracaoDaMedida (Hex.decode medida))
              pedido)
            (Tna.estadoForro r.bytesChave
              (Tna.configuracaoDaMedida
                (Hex.decode configuracao)) c)) ∧
      (pedido.bytesIdRodada = c.bytesIdRodada →
        Compensada
            (Tna.configuracaoDaMedida (Hex.decode configuracao))
            (Tna.configuracaoDaMedida (Hex.decode medida)) c
            pedido →
          Hex.decode medida = Hex.decode configuracao) := by
  have hId := idDispositivo_eq hDoRegistro hPedido
  have hStates :=
    estadoForro_eq_iff r.bytesChave
      (Tna.configuracaoDaMedida (Hex.decode configuracao))
      (Tna.configuracaoDaMedida (Hex.decode medida)) hId
  constructor
  · rw [aceita_medida hMemoria configuracao hHexMedida
      hLengthMedida hArquivo hMem hDoRegistro hSaida hPayload
      rest, ← hStates]
    constructor
    · intro hWords
      by_cases hSame :
          Tna.estadoForro r.bytesChave
              (Tna.configuracaoDaMedida (Hex.decode medida))
              pedido =
            Tna.estadoForro r.bytesChave
              (Tna.configuracaoDaMedida
                (Hex.decode configuracao)) c
      · exact Or.inl hSame
      · exact Or.inr ⟨hSame, hWords⟩
    · rintro (hSame | hColisao)
      · rw [hSame]
      · exact hColisao.2
  · intro hRodada hCompensada
    exact configuracaoDaMedida_injective
      (by rw [Hex.length_decode, hLengthMedida])
      (by rw [Hex.length_decode, hLength])
      (medida_eq_of_compensada hRodada hCompensada)

------------------------------------------------------------
-- A Compensated Configuration
------------------------------------------------------------

/- Two configurations that differ in the first word. -/
def configuracaoZero : List Char := List.replicate 64 '0'

def configuracaoAlterada : List Char :=
  "01".toList ++ List.replicate 62 '0'

/- The header of the request makes up for the difference. -/
def pedidoCompensado : Cabecalho :=
  { Tna.cabecalhoDaLinha with idRodada0 := 2 }

theorem compensada_exemplo :
    Compensada
      (Tna.configuracaoDaMedida (Hex.decode configuracaoZero))
      (Tna.configuracaoDaMedida
        (Hex.decode configuracaoAlterada))
      Tna.cabecalhoDaLinha pedidoCompensado where
  word0 := by decide +kernel
  word1 := by decide +kernel
  word2 := by decide +kernel
  word3 := by decide +kernel
  word4 := by decide +kernel
  word5 := by decide +kernel
  word6 := by decide +kernel
  word7 := by decide +kernel

/- The proof that the program prints for the altered one. -/
def provaAlterada : State :=
  Forro.forroWords
    (Tna.estadoForro registroExemplo.bytesChave
      (Tna.configuracaoDaMedida
        (Hex.decode configuracaoAlterada)) pedidoCompensado)

theorem main_configuracaoAlterada :
    ∃ saida,
      ForroArgsDra.main ForroArgsDra.memoriaZero
            (palavrasVerificacao registroExemplo.chave
              configuracaoAlterada pedidoCompensado) =
          some saida ∧
        Tna.forroStateT.encode provaAlterada =
          Hex.decode (swapEndian saida provaLen) := by
  have hHex : Hex.IsHex configuracaoAlterada := by
    decide +kernel
  have hMain :=
    VerificaRede.main_palavrasVerificacao
      ForroArgsDra.limpa_memoriaZero registroExemplo.hexChave
      registroExemplo.lengthChave hHex (by decide +kernel)
      pedidoCompensado
  refine ⟨_, hMain, ?_⟩
  rw [VerificaRede.decode_swapEndian_forro]
  rfl

/- An accepted proof does not pin the configuration. -/
theorem aceita_not_configuracao :
    ¬ ∀ (memoria : ForroArgsDra.Memoria)
        (configuracao medida : List Char)
        (registros : List Registro) (r : Registro)
        (c pedido : Cabecalho) (saida : List Char)
        (payload : State) (rest : List Byte),
      memoria.Limpa →
        Hex.IsHex configuracao → configuracao.length = 64 →
        Hex.IsHex medida → medida.length = 64 →
        ArquivoValido registros → r ∈ registros →
        c.DoRegistro r → pedido.DoRegistro r →
        ForroArgsDra.main memoria
            (palavrasVerificacao r.chave medida pedido) =
          some saida →
        Tna.forroStateT.encode payload =
          Hex.decode (swapEndian saida provaLen) →
        Tna.Aceita
          (Tna.setup (confIniDaMedida configuracao)
            (registros.map Registro.texto)).calls
          (quadroResposta c payload rest) →
        Hex.decode medida = Hex.decode configuracao := by
  intro hClaim
  rcases main_configuracaoAlterada with
    ⟨saida, hSaida, hPayload⟩
  have hMem : registroExemplo ∈ [registroExemplo] :=
    List.mem_singleton.mpr rfl
  have hDoRegistro :
      Tna.cabecalhoDaLinha.DoRegistro registroExemplo := by
    decide +kernel
  have hPedido : pedidoCompensado.DoRegistro registroExemplo := by
    decide +kernel
  have hHex : Hex.IsHex configuracaoAlterada := by
    decide +kernel
  have hLength : configuracaoAlterada.length = 64 := by
    decide +kernel
  have hStates :=
    (estadoForro_eq_iff registroExemplo.bytesChave _ _
      (idDispositivo_eq hDoRegistro hPedido)).mpr
        compensada_exemplo
  have hAceita :=
    (aceita_medida ForroArgsDra.limpa_memoriaZero
      configuracaoZero hHex hLength arquivoValido_exemplo hMem
      hDoRegistro hSaida hPayload []).mpr
        (congrArg Forro.forroWords hStates)
  have hSame :=
    hClaim ForroArgsDra.memoriaZero configuracaoZero
      configuracaoAlterada [registroExemplo] registroExemplo
      Tna.cabecalhoDaLinha pedidoCompensado saida
      provaAlterada [] ForroArgsDra.limpa_memoriaZero
      (by decide +kernel) (by decide +kernel) hHex hLength
      arquivoValido_exemplo hMem hDoRegistro hPedido hSaida
      hPayload hAceita
  exact absurd hSame (by decide +kernel)

theorem aceita_medida_iff_compensada :
    Tna.Aceita
      (Tna.setup (confIniDaMedida configuracaoZero)
        ([registroExemplo].map Registro.texto)).calls
      (quadroResposta Tna.cabecalhoDaLinha provaAlterada []) := by
  rcases main_configuracaoAlterada with
    ⟨saida, hSaida, hPayload⟩
  have hLength : configuracaoZero.length = 64 := by
    decide +kernel
  exact
    (aceita_medida_iff ForroArgsDra.limpa_memoriaZero hLength
      (by decide +kernel) (by decide +kernel)
      arquivoValido_exemplo
      (List.mem_singleton.mpr rfl) (by decide +kernel)
      (by decide +kernel) hSaida hPayload []).1.mpr
        (Or.inl compensada_exemplo)

end Tools

end P4dra
