import P4dra.Optee.HonestRun
import P4dra.Tna.Injection

/-
  The switch, the services and everybody else on one network.

  Any program may send any frame to the switch. The switch
  may take a frame that was sent at any time, and more than
  once; what it emits reaches the clients or the controller.
  A service captures frames that were delivered, and answers
  to the switch. Frames may be lost: nobody has to take them.

  Main declarations:
    * `Estado`, `Evento`, `tratar`
    * `processar_registros`, `entregue_cases`
    * `exists_quadroResposta`
-/

------------------------------------------------------------
-- Machine
------------------------------------------------------------

namespace P4dra

open Bytes (Byte)
open Tna (BfrtCall Cabecalho Frame Resultado Origem quadro
  quadroSemId quadroResposta processar portaCPU especificacao
  pedido)
open Tools
open Optee (Storage)

namespace Rede

variable {ι : Type}

/-
  The services, the frames that were ever sent to the switch,
  those that it delivered to the clients, and those that it
  sent to the controller.
-/
structure Estado (ι : Type) where
  hosts : ι → Optee.Service.Estado
  enviados : List Frame
  entregues : List Frame
  controlador : List Frame

inductive Evento (ι : Type) where
| envio (frame : Frame)
| comutacao (frame : Frame)
| captura
    (i : ι)
    (frame : Frame)
    (amb : Optee.Service.Ambiente)
    (captura : Optee.Service.Captura)
| gravacao (i : ι) (k : Nat) (escrita : Optee.Host.Escrita)

inductive Saida where
| nada
| resultado (resultado : Option Resultado)
| host (saida : Optee.Service.Saida)

/- What the switch emits goes to one of its two sides. -/
def Estado.emitir
    (rede : Estado ι) : Option Resultado → Estado ι
| some (.emitido port saida) =>
    if port = portaCPU then
      { rede with controlador := rede.controlador ++ [saida] }
    else
      { rede with entregues := rede.entregues ++ [saida] }
| _ => rede

/- The `i`-th service goes on and may have sent a Reply. -/
def Estado.avancar
    [DecidableEq ι]
    (rede : Estado ι)
    (i : ι)
    (host : Optee.Service.Estado)
    (saida : Optee.Service.Saida) : Estado ι :=
  { rede with
    hosts := Function.update rede.hosts i host
    enviados := rede.enviados ++ saida.reply.toList }

@[simp] theorem hosts_avancar
    [DecidableEq ι]
    (rede : Estado ι)
    (i : ι)
    (host : Optee.Service.Estado)
    (saida : Optee.Service.Saida) :
    (rede.avancar i host saida).hosts =
      Function.update rede.hosts i host := rfl

@[simp] theorem hosts_emitir
    (rede : Estado ι)
    (resultado : Option Resultado) :
    (rede.emitir resultado).hosts = rede.hosts := by
  unfold Estado.emitir
  split
  · split <;> rfl
  · rfl

/-
  One event. The memory that a service reads starts with the
  frame that it captures. A run of 256 passes always ends.
-/
def tratar
    [DecidableEq ι]
    (calls : List BfrtCall)
    (rede : Estado ι) :
    Evento ι → Option (Estado ι × Saida)
| .envio frame =>
    some
      ({ rede with enviados := rede.enviados ++ [frame] },
        .nada)
| .comutacao frame =>
    if frame ∈ rede.enviados then
      some
        (rede.emitir (processar calls 256 frame),
          .resultado (processar calls 256 frame))
    else
      none
| .captura i frame amb captura =>
    if frame ∈ rede.entregues ∧
        frame <+: captura.packet then
      (Optee.Service.tratar (rede.hosts i)
          (.captura amb captura)).map
        (fun (host, saida) =>
          (rede.avancar i host saida, .host saida))
    else
      none
| .gravacao i k escrita =>
    (Optee.Service.tratar (rede.hosts i)
        (.gravacao k escrita)).map
      (fun (host, saida) =>
        (rede.avancar i host saida, .host saida))

/- Every service has just started, and nothing was sent. -/
def estadoInicial (storage : ι → Storage) : Estado ι where
  hosts := fun i => Optee.Service.estadoInicial (storage i)
  enviados := []
  entregues := []
  controlador := []

------------------------------------------------------------
-- Steps
------------------------------------------------------------

theorem tratar_comutacao
    [DecidableEq ι]
    {calls : List BfrtCall}
    {rede rede' : Estado ι}
    {frame : Frame}
    {saida : Saida}
    (hTratar :
      tratar calls rede (.comutacao frame) =
        some (rede', saida)) :
    frame ∈ rede.enviados ∧
      rede' = rede.emitir (processar calls 256 frame) ∧
      saida = .resultado (processar calls 256 frame) := by
  rw [tratar] at hTratar
  split at hTratar
  · rename_i hMem
    cases hTratar
    exact ⟨hMem, rfl, rfl⟩
  · cases hTratar

theorem tratar_captura
    [DecidableEq ι]
    {calls : List BfrtCall}
    {rede rede' : Estado ι}
    {i : ι}
    {frame : Frame}
    {amb : Optee.Service.Ambiente}
    {captura : Optee.Service.Captura}
    {saida : Saida}
    (hTratar :
      tratar calls rede (.captura i frame amb captura) =
        some (rede', saida)) :
    frame ∈ rede.entregues ∧ frame <+: captura.packet ∧
      ∃ host saidaHost,
        Optee.Service.tratar (rede.hosts i)
            (.captura amb captura) =
          some (host, saidaHost) ∧
          rede' = rede.avancar i host saidaHost ∧
          saida = .host saidaHost := by
  rw [tratar] at hTratar
  split at hTratar
  · rename_i hFrame
    rcases Option.map_eq_some_iff.mp hTratar with
      ⟨⟨host, saidaHost⟩, hHost, hSame⟩
    cases hSame
    exact
      ⟨hFrame.1, hFrame.2, host, saidaHost, hHost, rfl, rfl⟩
  · cases hTratar

theorem tratar_gravacao
    [DecidableEq ι]
    {calls : List BfrtCall}
    {rede rede' : Estado ι}
    {i : ι}
    {k : Nat}
    {escrita : Optee.Host.Escrita}
    {saida : Saida}
    (hTratar :
      tratar calls rede (.gravacao i k escrita) =
        some (rede', saida)) :
    ∃ host saidaHost,
      Optee.Service.tratar (rede.hosts i)
          (.gravacao k escrita) =
        some (host, saidaHost) ∧
        rede' = rede.avancar i host saidaHost ∧
        saida = .host saidaHost := by
  rcases Option.map_eq_some_iff.mp hTratar with
    ⟨⟨host, saidaHost⟩, hHost, hSame⟩
  cases hSame
  exact ⟨host, saidaHost, hHost, rfl, rfl⟩

------------------------------------------------------------
-- What The Switch Emits
------------------------------------------------------------

/- A frame of an operation with an identifier, and with one. -/
def Interno (frame : Frame) : Prop :=
  ∃ c oper corpo, Tna.ComId oper ∧ frame = quadro c oper corpo

theorem interno_origem
    (c : Cabecalho)
    (origem : Origem)
    (corpo : List Byte) :
    Interno (origem.quadro c corpo) := by
  cases origem with
  | registro => exact ⟨c, 0x2, corpo, Or.inl rfl, rfl⟩
  | estado rodada v =>
      exact ⟨c, 0x3, _, Or.inr (Or.inl rfl), rfl⟩
  | cifra cipher => exact ⟨c, 0x4, _, Or.inr (Or.inr rfl), rfl⟩

/- A frame that is only forwarded is not one of those. -/
theorem not_interno_of_repassar
    {frame saida : Frame}
    {port : BitVec 9}
    (hPedido : pedido frame = some (.repassar port saida)) :
    ¬ Interno frame := by
  rintro ⟨c, oper, corpo, hOper, rfl⟩
  rw [Tna.pedido_quadro c corpo hOper] at hPedido
  rcases Tna.quadro_of_conferencia hPedido with
    ⟨_, _, hConferir, _⟩
  cases hConferir

/- The switch of a valid device file, given its passes. -/
theorem processar_registros
    {confIni : Nat}
    (hConf : confIni < 2 ^ 256)
    {registros : List Registro}
    (hArquivo : ArquivoValido registros)
    (frame : Frame) :
    processar
        (Tna.setup confIni (registros.map Registro.texto)).calls
        256 frame =
      some
        (especificacao
          (Tna.estadoDoArquivo confIni
            (registros.map Tna.linhaDoRegistro)) frame) := by
  rcases Tna.setup_registros hConf hArquivo with
    ⟨dispositivos, hEntradas, hSetup⟩
  rw [hSetup, Tna.processar_eq_ite,
    Tna.estadoDos_eq_estadoDoArquivo hEntradas
      (Tna.nodup_idDaLinha hArquivo.ids)]
  exact if_pos (Tna.passagensDe_le (by decide))

/- What reaches a client: another protocol, a Request or a
   Setup. -/
theorem entregue_cases
    {estadoDe : Cabecalho → Option State}
    {frame saida : Frame}
    {port : BitVec 9}
    (hPort : port ≠ portaCPU)
    (hResult :
      especificacao estadoDe frame = .emitido port saida) :
    (∃ ethernet corpo,
      ethernet.etherType ≠ Tna.etherTypeP4DRA ∧
        saida = Tna.ethernetH.encode ethernet ++ corpo) ∨
      (∃ c corpo,
        frame = quadroSemId c 0x0 corpo ∧
          saida = quadroSemId c 0x1 corpo) ∨
      ∃ c corpo, saida = quadroSemId c 0x5 corpo := by
  unfold especificacao at hResult
  cases Tna.leitura frame with
  | curta _ hPedido _ =>
      rw [hPedido] at hResult
      cases hResult
  | outroProtocolo ethernet corpo hType =>
      rw [Tna.pedido_outroProtocolo ethernet corpo hType]
        at hResult
      cases hResult
      exact Or.inl ⟨ethernet, corpo, hType, rfl⟩
  | semId c oper corpo hOper =>
      rw [Tna.pedido_semId c corpo hOper] at hResult
      by_cases hStart : oper = 0x0
      · rw [if_pos hStart] at hResult
        cases hResult
        exact Or.inr (Or.inl ⟨c, corpo, by rw [hStart], rfl⟩)
      · rw [if_neg hStart] at hResult
        by_cases hSetup : oper = 0x5
        · rw [if_pos hSetup] at hResult
          cases hResult
          exact Or.inr (Or.inr ⟨c, corpo, rfl⟩)
        · rw [if_neg hSetup] at hResult
          cases hResult
  | comId c oper pkt hOper =>
      rw [Tna.pedido_quadro c pkt hOper] at hResult
      cases hPedido : Tna.conferencia c oper pkt with
      | none =>
          rw [hPedido] at hResult
          cases hResult
      | some request =>
          rcases Tna.quadro_of_conferencia hPedido with
            ⟨origem, corpo, hConferir, _⟩
          rw [hPedido, hConferir] at hResult
          simp only [Tna.conferir] at hResult
          split at hResult
          · cases hResult
          · split at hResult
            · cases hResult
              exact absurd rfl hPort
            · cases hResult

------------------------------------------------------------
-- What A Service Sends
------------------------------------------------------------

/- A Reply has the fields of its Request, whatever it proves. -/
theorem exists_quadroResposta
    (captura : Optee.Service.Captura)
    {id : List Byte}
    (hId : id.length = 16)
    (provaHex : List Char) :
    ∃ c prova,
      Optee.Service.respostaCom captura id provaHex =
          quadroResposta c prova [] ∧
        c.bytesIdRodada = operHdrIdRodada captura.packet := by
  rcases exists_cabecalho
      (Optee.Service.length_etherShost captura)
      (Optee.Service.length_etherDhost captura)
      (Optee.Service.length_idRodada captura) with
    ⟨c, hDst, hSrc, hRodada⟩
  let c' : Cabecalho :=
    { c with
      idDispositivo :=
        (Tna.p4draIdDispositivoT.decode id).idDispositivo }
  have hIdBytes : c'.bytesIdDispositivo = id :=
    Tna.p4draIdDispositivoT.encode_decode id hId
  have hProva :
      Tna.forroStateT.encode
          (Tna.forroStateT.decode
            (Optee.Service.provaDaLinha provaHex)) =
        Optee.Service.provaDaLinha provaHex :=
    Tna.forroStateT.encode_decode _
      (Optee.Service.length_provaDaLinha provaHex)
  refine ⟨c', Tna.forroStateT.decode
    (Optee.Service.provaDaLinha provaHex), ?_, hRodada⟩
  rw [quadroResposta_eq, quadroSemId_eq, hIdBytes, hProva]
  have hDst' : mac c'.dstAddr = etherShost captura.packet :=
    hDst
  have hSrc' : mac c'.srcAddr = etherDhost captura.packet :=
    hSrc
  have hRodada' :
      c'.bytesIdRodada = operHdrIdRodada captura.packet :=
    hRodada
  rw [hDst', hSrc', hRodada', List.append_nil]
  rfl

end Rede

end P4dra
