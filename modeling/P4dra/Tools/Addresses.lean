import P4dra.Tools.ProofSender

/-
  The addresses of the devices.

  Four programs compute the address of the device of a record
  from its index. The last byte counts from one, and the two
  before it are the next digits of the index in base 256.

  Main declarations:
    * `endereco`, `endereco_inj`
    * `enderecos`
    * `mesmoDispositivo`
-/

------------------------------------------------------------
-- Addresses
------------------------------------------------------------

namespace P4dra

open Bytes (Byte)
open Tna (Frame)

namespace Tools

/- The address of the device of a record. -/
def endereco (id : Nat) : List Byte :=
  [0x52, 0x54, 0x00, byteDe (id / 65536), byteDe (id / 256),
    byteDe (id + 1)]

/- The store truncates what the division left. -/
theorem byteDe_mod
    (n : Nat) :
    byteDe (n % 256) = byteDe n := by
  apply BitVec.eq_of_toNat_eq
  simp [byteDe]

theorem byteDe_eq_iff
    {m n : Nat} :
    byteDe m = byteDe n ↔ m % 256 = n % 256 := by
  unfold byteDe
  rw [BitVec.toNat_eq, BitVec.toNat_ofNat, BitVec.toNat_ofNat]

/- Three bytes hold every index below `2 ^ 24`. -/
theorem endereco_inj
    {i j : Nat}
    (hi : i < 2 ^ 24)
    (hj : j < 2 ^ 24)
    (hSame : endereco i = endereco j) :
    i = j := by
  unfold endereco at hSame
  simp only [List.cons.injEq, byteDe_eq_iff, true_and,
    and_true] at hSame
  rcases hSame with ⟨hHigh, hMiddle, hLow⟩
  omega

theorem destMac_setup
    (id : Nat) :
    EnviaSetupHostArquivo.destMac id = endereco id := by
  unfold EnviaSetupHostArquivo.destMac endereco
  rw [byteDe_mod, byteDe_mod, byteDe_mod]

theorem destMac_pedidos
    (id : Nat) :
    EnviaPedidos.destMac id = endereco id :=
  destMac_setup id

theorem destMac_pedidosHost
    (id : Nat) :
    EnviaPedidosHost.destMac id = endereco id :=
  destMac_setup id

/- The proofs are sent without the modulus of the high byte. -/
theorem srcMac_provas
    (id : Nat) :
    EnviaProvasArquivo.srcMac id = endereco id := by
  unfold EnviaProvasArquivo.srcMac endereco
  rw [byteDe_mod, byteDe_mod]

------------------------------------------------------------
-- One Device For A Record
------------------------------------------------------------

/- The programs agree on an address, and it is of one record. -/
theorem enderecos
    (i j : Nat)
    (hi : i < EnviaSetupHostArquivo.idMax)
    (hj : j < EnviaSetupHostArquivo.idMax) :
    EnviaSetupHostArquivo.destMac i = EnviaPedidos.destMac i ∧
      EnviaSetupHostArquivo.destMac i =
        EnviaPedidosHost.destMac i ∧
      EnviaSetupHostArquivo.destMac i =
        EnviaProvasArquivo.srcMac i ∧
      (EnviaSetupHostArquivo.destMac i =
          EnviaSetupHostArquivo.destMac j ↔
        i = j) := by
  have hBound : EnviaSetupHostArquivo.idMax < 2 ^ 24 := by
    decide
  refine ⟨?_, ?_, ?_, ?_⟩
  · rw [destMac_setup, destMac_pedidos]
  · rw [destMac_setup, destMac_pedidosHost]
  · rw [destMac_setup, srcMac_provas]
  · constructor
    · intro hSame
      rw [destMac_setup, destMac_setup] at hSame
      exact endereco_inj (by omega) (by omega) hSame
    · intro hEq
      rw [hEq]

/- Two records at the carry of the last byte. -/
theorem enderecos_vaiUm :
    EnviaSetupHostArquivo.destMac 255 ≠
      EnviaSetupHostArquivo.destMac 65535 := by
  have hAddresses :=
    enderecos 255 65535 (by decide) (by decide)
  intro hSame
  have hEq := hAddresses.2.2.2.mp hSame
  contradiction

theorem etherDhost_pacoteDe
    {destMac : List Byte}
    (hDest : destMac.length = 6)
    (srcMac hdr : List Byte) :
    etherDhost (pacoteDe destMac srcMac hdr) = destMac :=
  Bytes.slice_front _ hDest

/-
  A device that is set up and one that is asked, in runs of
  the two programs, have one address when they have one index.
-/
theorem mesmoDispositivo
    {dados : Dados}
    {argv2 : List Char}
    {setups pedidos : Nat}
    {quadrosSetup quadrosPedido : List Frame}
    {setup pedido : Frame}
    {i j : Nat}
    (hSetup :
      EnviaSetupHostArquivo.main dados setups =
        some quadrosSetup)
    (hPedido :
      EnviaPedidosHost.main argv2 pedidos = some quadrosPedido)
    (hI : quadrosSetup[i]? = some setup)
    (hJ : quadrosPedido[j]? = some pedido) :
    etherDhost setup = etherDhost pedido ↔ i = j := by
  rw [EnviaSetupHostArquivo.main_eq] at hSetup
  rw [← Option.some.inj hSetup] at hI
  rcases getElem?_turnos.mp hI with ⟨hiCount, hiFrame⟩
  unfold EnviaPedidosHost.main at hPedido
  rcases Option.bind_eq_some_iff.mp hPedido with
    ⟨hdr, _, hFrames⟩
  rw [← Option.some.inj hFrames] at hJ
  rcases getElem?_turnos.mp hJ with ⟨hjCount, hjFrame⟩
  have hDestSetup : etherDhost setup = endereco i := by
    rw [← hiFrame, ← destMac_setup]
    exact etherDhost_pacoteDe rfl _ _
  have hDestPedido : etherDhost pedido = endereco j := by
    rw [← hjFrame, ← destMac_pedidosHost]
    exact etherDhost_pacoteDe rfl _ _
  have hMaxSetup : EnviaSetupHostArquivo.idMax < 2 ^ 24 := by
    decide
  have hMaxPedido : EnviaPedidosHost.idMax < 2 ^ 24 := by
    decide
  rw [hDestSetup, hDestPedido]
  constructor
  · intro hSame
    exact endereco_inj (by omega) (by omega) hSame
  · intro hEq
    rw [hEq]

end Tools

end P4dra
