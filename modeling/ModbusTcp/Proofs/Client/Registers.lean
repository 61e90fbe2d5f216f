import ModbusTcp.Proofs.Client.Exchange
import ModbusTcp.Proofs.Server.RegisterMap

/-!
# Registers seen from afar

Any number of clients have a connection of their own to a slave, and all slaves serve one register map.
What the clients are told, and what becomes of the map, can be told from the words that it holds alone:
frames, byte orders and connections leave no trace.

* `Call` — what a client can be asked to do with registers.
* `Registers.answer`, `Registers.run` — what some registers give to a call, and to one after the other.
* `Client.perform_call` — one client.
* `Client.Opened` — a client that has just opened a connection to a slave.
* `Site` — clients and the map that they share; `Site.call`, `Site.run`.
* **`Site.run_eq_registers_run`** — every series of calls comes to what the registers give.
-/

namespace ModbusTcp

/-! ### What registers give to a call -/

/-- A client is asked to read or write registers as words. -/
inductive Call where
  | read (unit : UInt8) (start count : UInt16)
  | write (unit : UInt8) (address value : UInt16)
  | writeMultiple (unit : UInt8) (start : UInt16) (values : List UInt16)
deriving DecidableEq, Repr

/-- What a call comes to: an error, an exception, or the bytes that have been read, if any. -/
abbrev Call.Result := Except Error (Answer (Option Bytes))

/-- What a client does about a call. -/
def Call.operation : Call → Operation (Option Bytes)
  | .read unit start count => (Operation.readRange unit start count).map some
  | .write unit address value => (Operation.writeRegister unit address value).map fun _ => none
  | .writeMultiple unit start values => (Operation.writeMultiple unit start values).map fun _ => none

namespace Registers

/-- Words are to be written at consecutive addresses. -/
def put (registers : Registers) (start : UInt16) (words : List UInt16) : Call.Result × Registers :=
  match registers.words? start words.length with
  | some _ => (.ok (.value none), registers.replace start words)
  | none => (.ok (.exception ExceptionCode.illegalDataAddress.value), registers)

/-- The words at consecutive addresses are asked for. -/
def fetch (registers : Registers) (start : UInt16) (count : Nat) : Call.Result × Registers :=
  match registers.words? start count with
  | some words => (.ok (.value (some (bytesOfWords words))), registers)
  | none => (.ok (.exception ExceptionCode.illegalDataAddress.value), registers)

/-- A call for too many registers, or for none, is turned away. -/
def within (registers : Registers) (count max : Nat) (answer : Call.Result × Registers) :
    Call.Result × Registers :=
  if count = 0 then (.error (.protocol .emptySpan), registers)
  else if max < count then (.error (.protocol (.spanTooLarge count max)), registers)
  else answer

/-- What some registers give to a call, and what they hold afterwards. -/
def answer (registers : Registers) : Call → Call.Result × Registers
  | .read _ start count => registers.within count.toNat 0x7D (registers.fetch start count.toNat)
  | .write _ address value => registers.put address [value]
  | .writeMultiple _ start values => registers.within values.length 0x7B (registers.put start values)

/-- What some registers give to one call after the other. -/
def run (registers : Registers) : List Call → List Call.Result × Registers
  | [] => ([], registers)
  | call :: calls =>
    let (result, registers) := registers.answer call
    let (results, registers) := registers.run calls
    (result :: results, registers)

end Registers

/-! ### One client -/

section OneClient

variable {client : Client (Connection RegisterMap)} {link : Link (Connection RegisterMap)}

/-- A client has a connection to a slave on which nothing is under way, and there is room for the frames
of the register model in both directions. -/
structure Client.ReadyOn {σ : Type} (client : Client (Connection σ)) (link : Link (Connection σ)) : Prop
    extends client.OpenOn link where
  room : 261 ≤ client.config.maxFrame
  roomServer : 261 ≤ link.peer.framer.maxFrame

/-- What a call to a client has come to: the result that the registers give, and a client that is still
open, whose slave holds what the registers hold then.  A call that is turned away changes nothing. -/
structure Client.Obtains (client : Client (Connection RegisterMap)) (registers : Registers) (call : Call)
    (result : Call.Result) (next : Client (Connection RegisterMap)) : Prop where
  result : result = (registers.answer call).1
  isOpen : ∃ link, next.ReadyOn link ∧ link.peer.state.get? = (registers.answer call).2
  refused : ∀ error, (registers.answer call).1 = .error error → next = client

/-- A call that is turned away by its client. -/
theorem Client.obtains_of_error (isOpen : client.ReadyOn link) {call : Call} {error : Error}
    (expected : Registers.answer link.peer.state.get? call = (.error error, link.peer.state.get?)) :
    client.Obtains link.peer.state.get? call (.error error) client := by
  constructor
  · rw [expected]
  · exact ⟨link, isOpen, by rw [expected]⟩
  · exact fun _ _ => rfl

/-- A call that is answered by the service of a slave. -/
theorem Client.obtains_of_answer (isOpen : client.ReadyOn link) {call : Call} {unit : UInt8}
    {function : FunctionCode} {asked answered content : Body} {answer : Except ExceptionCode Body}
    {map : RegisterMap}
    (asks : call.operation.Asks client.factory RegisterMap.service link.peer.state unit function asked
      answered content answer map)
    {outcome : Answer (Option Bytes)} (comes : call.operation.outcome answer = .ok outcome)
    (expected : Registers.answer link.peer.state.get? call = (.ok outcome, map.get?))
    (endpoint : Endpoint) (waiting : Stop) :
    let performed :=
      client.perform (Connection.peer (Slave.handle RegisterMap.service endpoint)) call.operation { waiting }
    client.Obtains link.peer.state.get? call performed.1 performed.2 := by
  intro performed
  have room := Nat.le_trans (Pdu.frameLength_le_of_checkLimits asks.limited) isOpen.roomServer
  have roomReply := Nat.le_trans (Slave.frameLength_replyPdu_le function answer) isOpen.room
  have same : performed = _ := perform_slave isOpen.linkedTo asks room roomReply endpoint waiting
  rw [same, comes]
  constructor
  · rw [expected]
  · rw [expected]
    exact ⟨_, ⟨isOpen.exchanged unit function (.body content) map _, isOpen.room, isOpen.roomServer⟩, rfl⟩
  · intro error refused
    rw [expected] at refused
    exact nomatch refused

/-- A call that is not even built is turned away. -/
theorem Client.perform_of_build_eq_error {σ α : Type} {client : Client σ} {operation : Operation α}
    {error : Error} (fails : operation.build client.factory = .error error) (peer : Peer σ)
    (circumstances : Circumstances) :
    client.perform peer operation circumstances = (.error error, client) := by
  rw [perform, prepare, fails]
  rfl

/-- The limits of a call are those that its client checks first. -/
theorem Client.obtains_of_checked (isOpen : client.ReadyOn link) {call : Call} {count max : Nat}
    (built : Frame × FrameFactory) {expected : Call.Result × Registers}
    (builds : call.operation.build client.factory = (do Operation.checked count max; return built))
    (expects : Registers.answer link.peer.state.get? call =
      Registers.within link.peer.state.get? count max expected)
    (endpoint : Endpoint) (waiting : Stop) :
    let performed :=
      client.perform (Connection.peer (Slave.handle RegisterMap.service endpoint)) call.operation { waiting }
    (1 ≤ count → count ≤ max → call.operation.build client.factory = .ok built →
      Registers.answer link.peer.state.get? call = expected →
        client.Obtains link.peer.state.get? call performed.1 performed.2) →
      client.Obtains link.peer.state.get? call performed.1 performed.2 := by
  intro performed served
  rw [Operation.checked, checkCount] at builds
  rw [Registers.within] at expects
  by_cases none : count = 0
  · rw [if_pos none] at builds expects
    rw [show performed = _ from perform_of_build_eq_error builds _ _]
    exact obtains_of_error isOpen expects
  · rw [if_neg none] at builds expects
    by_cases many : max < count
    · rw [if_pos many] at builds expects
      rw [show performed = _ from perform_of_build_eq_error builds _ _]
      exact obtains_of_error isOpen expects
    · rw [if_neg many] at builds expects
      exact served (by omega) (by omega) builds expects

/-- The words that a request may read are within the limits of an answer. -/
theorem isAnswer_bytesOfWords {words : List UInt16} (few : words.length ≤ maxReadRegisters) :
    Body.IsAnswer .readHoldingRegisters (.registerValues []) (.registerValues (bytesOfWords words)) := by
  have length : (bytesOfWords words).length = 2 * words.length := length_flatMap_word .big words
  refine ⟨rfl, ?_⟩
  show (if maxReadRegisters < ((bytesOfWords words).length + 1) / 2 then _ else _) = _
  rw [if_neg (by omega)]

/-- An operation that reads registers which are populated. -/
theorem Operation.asks_read {α : Type} {operation : Operation α} {factory : FrameFactory}
    {map : RegisterMap} {unit : UInt8} {start count : UInt16} (positive : 1 ≤ count.toNat)
    (few : count.toNat ≤ maxReadRegisters)
    (builds : operation.build factory = .ok (factory.readRegisters unit start count))
    {words : List UInt16} (found : Registers.words? map.get? start count.toNat = some words) :
    operation.Asks factory RegisterMap.service map unit .readHoldingRegisters (.readRegisters 0 0)
      (.registerValues []) (.readRegisters start count) (.ok (.registerValues (bytesOfWords words))) map where
  basic := FunctionCode.isBasic_readHoldingRegisters
  kind := rfl
  limited := checkCount_eq_ok_iff.mpr ⟨positive, few⟩
  builds := builds
  serves := RegisterMap.service_eq_ok (RegisterMap.answer_readRegisters positive few found) unit _
  fine := by
    rintro _ ⟨⟩
    exact isAnswer_bytesOfWords (Nat.le_trans (Nat.le_of_eq (Registers.length_of_words? found)) few)

/-- An operation that reads registers which are not all populated. -/
theorem Operation.asks_read_missing {α : Type} {operation : Operation α} {factory : FrameFactory}
    {map : RegisterMap} {unit : UInt8} {start count : UInt16} (positive : 1 ≤ count.toNat)
    (few : count.toNat ≤ maxReadRegisters)
    (builds : operation.build factory = .ok (factory.readRegisters unit start count))
    (missing : Registers.words? map.get? start count.toNat = none) :
    operation.Asks factory RegisterMap.service map unit .readHoldingRegisters (.readRegisters 0 0)
      (.registerValues []) (.readRegisters start count) (.error .illegalDataAddress) map where
  basic := FunctionCode.isBasic_readHoldingRegisters
  kind := rfl
  limited := checkCount_eq_ok_iff.mpr ⟨positive, few⟩
  builds := builds
  serves := RegisterMap.service_eq_error
    (RegisterMap.answer_readRegisters_eq_error positive few missing) unit _
  fine := nofun

/-- Reading registers. -/
theorem Client.obtains_read (isOpen : client.ReadyOn link) (unit : UInt8) (start count : UInt16)
    (endpoint : Endpoint) (waiting : Stop) :
    let performed := client.perform (Connection.peer (Slave.handle RegisterMap.service endpoint))
      (Call.read unit start count).operation { waiting }
    client.Obtains link.peer.state.get? (.read unit start count) performed.1 performed.2 := by
  refine obtains_of_checked isOpen (client.factory.readRegisters unit start count) rfl rfl endpoint waiting
    fun positive few builds expects => ?_
  cases found : Registers.words? link.peer.state.get? start count.toNat with
  | some words =>
    refine obtains_of_answer isOpen (Operation.asks_read positive few builds found) rfl ?_ endpoint waiting
    rw [expects, Registers.fetch, found]
  | none =>
    have asks := Operation.asks_read_missing positive few builds found
    refine obtains_of_answer isOpen asks rfl ?_ endpoint waiting
    rw [expects, Registers.fetch, found]

/-- Writing registers, with either function. -/
theorem Client.obtains_put (isOpen : client.ReadyOn link) {function : FunctionCode}
    {asked answered : Body} (basic : function.IsBasic asked answered) {unit : UInt8} (content : Body)
    (kind : asked.kind = content.kind)
    (limited : (Pdu.ofFunction function (.body content)).checkLimits = .ok ()) {call : Call}
    (builds : call.operation.build client.factory =
      .ok (client.factory.next unit function (.body content)))
    (start : UInt16) (words : List UInt16) (positive : 1 ≤ words.length)
    (few : words.length ≤ maxWriteRegisters) (reply : Body) (fine : answered.IsAnswer function reply)
    (writes : ∀ map : RegisterMap, map.answer content = (map.write start words).map (reply, ·))
    (accepted : call.operation.outcome (.ok reply) = .ok (.value none))
    (expects : Registers.answer link.peer.state.get? call = Registers.put link.peer.state.get? start words)
    (endpoint : Endpoint) (waiting : Stop) :
    let performed :=
      client.perform (Connection.peer (Slave.handle RegisterMap.service endpoint)) call.operation { waiting }
    client.Obtains link.peer.state.get? call performed.1 performed.2 := by
  cases found : Registers.words? link.peer.state.get? start words.length with
  | some _ =>
    obtain ⟨written, write, holds⟩ := RegisterMap.exists_write_eq positive few (by rw [found]; rfl)
    have answers : link.peer.state.answer content = .ok (reply, written) := by
      rw [writes, write, Except.map]
    have asks : call.operation.Asks client.factory RegisterMap.service link.peer.state unit function asked
        answered content (.ok reply) written := by
      refine ⟨basic, kind, limited, builds, RegisterMap.service_eq_ok answers unit function, ?_⟩
      rintro _ ⟨⟩
      exact fine
    refine obtains_of_answer isOpen asks accepted ?_ endpoint waiting
    rw [expects, Registers.put, found, holds]
  | none =>
    have refuses : link.peer.state.answer content = .error .illegalDataAddress := by
      rw [writes, RegisterMap.write_eq_error positive few found, Except.map]
    have asks : call.operation.Asks client.factory RegisterMap.service link.peer.state unit function asked
        answered content (.error .illegalDataAddress) link.peer.state :=
      ⟨basic, kind, limited, builds, RegisterMap.service_eq_error refuses unit function, nofun⟩
    refine obtains_of_answer isOpen asks rfl ?_ endpoint waiting
    rw [expects, Registers.put, found]

/-- **A call to a client comes to what the registers of its slave give**, and leaves the client open. -/
theorem Client.perform_call (isOpen : client.ReadyOn link) (call : Call) (endpoint : Endpoint)
    (waiting : Stop) :
    let performed :=
      client.perform (Connection.peer (Slave.handle RegisterMap.service endpoint)) call.operation { waiting }
    client.Obtains link.peer.state.get? call performed.1 performed.2 := by
  cases call with
  | read unit start count => exact obtains_read isOpen unit start count endpoint waiting
  | write unit address value =>
    refine obtains_put isOpen FunctionCode.isBasic_writeSingleRegister (.writeRegister address value) rfl rfl
      rfl address [value] (Nat.le_refl 1) (show 1 ≤ 123 by decide) (.writeRegister address value)
      ⟨rfl, rfl⟩ ?_ rfl rfl endpoint waiting
    intro map
    rw [RegisterMap.answer]
    cases map.write address [value] <;> rfl
  | writeMultiple unit start values =>
    refine obtains_of_checked isOpen (client.factory.writeMultiple unit start values) rfl rfl endpoint
      waiting fun positive few builds expects => ?_
    refine obtains_put isOpen FunctionCode.isBasic_writeMultipleRegisters (.writeMultiple start values) rfl
      (checkCount_eq_ok_iff.mpr ⟨positive, few⟩) builds start values positive few
      (.multipleWritten start (UInt16.ofNat values.length)) ⟨rfl, rfl⟩ ?_ rfl expects endpoint waiting
    intro map
    rw [RegisterMap.answer]
    cases map.write start values <;> rfl

end OneClient

/-! ### Many clients -/

/-- The default settings make sense for every host that is not blank, in both byte orders. -/
theorem ClientConfig.validate_default {host : String} (named : isBlankText host = false)
    (order : ByteOrder) : ClientConfig.validate { host, order } = .ok () := by
  simp [validate, named, defaultPort, defaultMaxFrame]

namespace Client

variable {σ : Type}

/-- The client before a slave that knows another state. -/
def lend (client : Client (Connection σ)) (state : σ) : Client (Connection σ) :=
  { client with link := client.link.map fun link => { link with peer := { link.peer with state } } }

/-- What the slave of a client knows. -/
def shared? (client : Client (Connection σ)) : Option σ := client.links.getLast?.map (·.peer.state)

/-- A client has a connection to a slave on which nothing is under way. -/
def IsOpen (client : Client (Connection σ)) : Prop := ∃ link, client.ReadyOn link

theorem IsOpen.lend {client : Client (Connection σ)} (isOpen : client.IsOpen) (state : σ) :
    ∃ link, (client.lend state).ReadyOn link ∧ link.peer.state = state := by
  obtain ⟨link, ⟨owns, isConnected, basic, idle⟩, room, roomServer⟩ := isOpen
  refine ⟨{ link with peer := { link.peer with state } },
    ⟨⟨?_, isConnected, basic, ?_⟩, room, roomServer⟩, rfl⟩
  · rw [Client.lend, owns]
    rfl
  · exact ⟨idle.unread, idle.ended, idle.order, idle.basic, idle.buffer, idle.ending⟩

theorem ReadyOn.shared? {client : Client (Connection σ)} {link : Link (Connection σ)}
    (isOpen : client.ReadyOn link) : client.shared? = some link.peer.state := by
  rw [Client.shared?, links, isOpen.owns, Option.toList_some, List.getLast?_concat, Option.map_some]

/-- Lending another state writes nothing. -/
theorem sent_lend (client : Client (Connection σ)) (state : σ) : (client.lend state).sent = client.sent := by
  rw [sent, sent, links, links, lend, List.map_append, List.map_append]
  cases client.link <;> rfl

/-- A client with the basic factory that has just opened a connection to a slave before a service, in
one byte order. -/
structure Opened (config : ClientConfig) (server : ServerConfig) (factory : FrameFactory) (state : σ)
    (client : Client (Connection σ)) : Prop where
  order : config.order = server.order
  basic : ∃ others, factory.resolvers = Resolver.basic :: others
  opens : ∃ fresh : Client (Connection σ), Client.ofConfig config = .ok fresh ∧
    client = (fresh.connect false (.established { peer := Slave.connection server factory state })).2

/-- A client with valid settings has opened a connection once it has been connected to a slave. -/
theorem opened_connect {config : ClientConfig} {server : ServerConfig} (factory : FrameFactory)
    (state : σ) (order : config.order = server.order)
    (basic : ∃ others, factory.resolvers = Resolver.basic :: others) (valid : config.validate = .ok ()) :
    Opened config server factory state
      (connect { config, factory := { protocolId := config.protocolId } } false
        (.established { peer := Slave.connection server factory state })).2 := by
  refine ⟨order, basic, { config, factory := { protocolId := config.protocolId } }, ?_, rfl⟩
  rw [ofConfig, ofFactory, valid]
  rfl

theorem Opened.exists_openOn {config : ClientConfig} {server : ServerConfig} {factory : FrameFactory}
    {state : σ} {client : Client (Connection σ)} (opened : client.Opened config server factory state) :
    ∃ link, client.OpenOn link ∧ link.peer.state = state ∧ client.config = config ∧
      link.peer.framer.maxFrame = server.maxFrame := by
  obtain ⟨order, ⟨others, basic⟩, fresh, made, rfl⟩ := opened
  obtain rfl : fresh = { config, factory := { protocolId := config.protocolId } } :=
    eq_of_ofFactory made
  refine ⟨_, ⟨rfl, rfl, rfl, ⟨rfl, rfl, order.symm, ⟨others, ?_⟩, rfl, rfl⟩⟩, rfl, rfl, rfl⟩
  show Resolver.firstOf factory.resolvers = _
  rw [basic]

theorem Opened.isOpen {config : ClientConfig} {server : ServerConfig} {factory : FrameFactory}
    {state : σ} {client : Client (Connection σ)} (opened : client.Opened config server factory state)
    (room : 261 ≤ config.maxFrame) (roomServer : 261 ≤ server.maxFrame) : client.IsOpen := by
  obtain ⟨link, isOpen, _, rfl, same⟩ := opened.exists_openOn
  exact ⟨link, isOpen, room, same ▸ roomServer⟩

end Client

/-- Clients that each have a connection of their own to a slave, at some endpoint, and the register map
that all slaves serve. -/
structure Site (count : Nat) where
  map : RegisterMap
  clients : Fin count → Client (Connection RegisterMap)
  endpoints : Fin count → Endpoint

namespace Site

variable {count : Nat}

/-- A call to one of the clients, whose slave knows what the map holds. -/
def call (site : Site count) (who : Fin count) (call : Call) : Call.Result × Site count :=
  let client := (site.clients who).lend site.map
  let peer := Connection.peer (Slave.handle RegisterMap.service (site.endpoints who))
  let (result, client) := client.perform peer call.operation {}
  (result, { site with
    map := client.shared?.getD site.map
    clients := fun other => if other = who then client else site.clients other })

/-- Calls to the clients, one after the other. -/
def run (site : Site count) : List (Fin count × Call) → List Call.Result × Site count
  | [] => ([], site)
  | (who, call) :: calls =>
    let (result, site) := site.call who call
    let (results, site) := site.run calls
    (result :: results, site)

/-- One call comes to what the registers give.  All clients are still open after it, and if it has been
turned away nothing has been sent. -/
theorem call_eq_answer {site : Site count} (isOpen : ∀ who, (site.clients who).IsOpen) (who : Fin count)
    (call : Call) :
    let called := site.call who call
    let given := Registers.answer site.map.get? call
    called.1 = given.1 ∧ called.2.map.get? = given.2 ∧ (∀ other, (called.2.clients other).IsOpen) ∧
      ∀ error, given.1 = .error error →
        ∀ other, (called.2.clients other).sent = (site.clients other).sent := by
  obtain ⟨link, lent, holds⟩ := (isOpen who).lend site.map
  have obtained := Client.perform_call lent call (site.endpoints who) .deadline
  rw [holds] at obtained
  obtain ⟨result, ⟨link', isOpen', holds'⟩, refused⟩ := obtained
  refine ⟨result, ?_, fun other => ?_, fun error turned other => ?_⟩
  · have kept := congrArg (fun state => RegisterMap.get? (state.getD site.map)) isOpen'.shared?
    exact kept.trans holds'
  · show Client.IsOpen (if other = who then _ else _)
    by_cases same : other = who
    · rw [if_pos same]
      exact ⟨link', isOpen'⟩
    · rw [if_neg same]
      exact isOpen other
  · show Client.sent (if other = who then _ else _) = _
    by_cases same : other = who
    · rw [if_pos same, same]
      exact (congrArg Client.sent (refused error turned)).trans (Client.sent_lend _ _)
    · rw [if_neg same]

/-- Calls come to what the registers give to one after the other. -/
theorem run_eq_run {site : Site count} (isOpen : ∀ who, (site.clients who).IsOpen)
    (calls : List (Fin count × Call)) :
    let ran := site.run calls
    let given := Registers.run site.map.get? (calls.map (·.2))
    ran.1 = given.1 ∧ ran.2.map.get? = given.2 ∧ ∀ who, (ran.2.clients who).IsOpen := by
  induction calls generalizing site with
  | nil => exact ⟨rfl, rfl, isOpen⟩
  | cons head calls ih =>
    obtain ⟨who, call⟩ := head
    obtain ⟨result, holds, stillOpen, _⟩ := call_eq_answer isOpen who call
    obtain ⟨results, last, open_⟩ := ih stillOpen
    rw [holds] at results last
    exact ⟨List.cons_eq_cons.mpr ⟨result, results⟩, last, open_⟩

/-- **Every series of calls comes to what the registers give.**  Clients open a connection of their own
each to a slave, with room for the frames of the register model, and all slaves serve one register map.  Whoever makes the calls, in whichever order,
for whatever unit: the results are those that the words of the map give to one call after the other, the
map holds in the end what they come to, and all clients are still open.  A call that is turned away by
its client sends nothing. -/
theorem run_eq_registers_run (site : Site count)
    (opened : ∀ who, ∃ config server factory, 261 ≤ config.maxFrame ∧ 261 ≤ server.maxFrame ∧
      (site.clients who).Opened config server factory site.map)
    (calls : List (Fin count × Call)) :
    let ran := site.run calls
    let given := Registers.run site.map.get? (calls.map (·.2))
    ran.1 = given.1 ∧ ran.2.map.get? = given.2 ∧ (∀ who, (ran.2.clients who).IsOpen) ∧
      ∀ who call error, (given.2.answer call).1 = .error error →
        (ran.2.call who call).1 = .error error ∧
          ∀ other, ((ran.2.call who call).2.clients other).sent = (ran.2.clients other).sent := by
  have isOpen (who : Fin count) : (site.clients who).IsOpen := by
    obtain ⟨config, server, factory, room, roomServer, opened⟩ := opened who
    exact opened.isOpen room roomServer
  obtain ⟨results, holds, stillOpen⟩ := run_eq_run isOpen calls
  refine ⟨results, holds, stillOpen, fun who call error turned => ?_⟩
  obtain ⟨result, _, _, unsent⟩ := call_eq_answer stillOpen who call
  rw [holds] at result unsent
  exact ⟨result.trans turned, unsent error turned⟩

/-- Two clients with different byte orders and a map with one register: what the first one writes is what
the second one reads, and nothing can be read beside it. -/
theorem run_on_two_clients :
    let config (who : Fin 2) : ClientConfig :=
      { host := "device", order := if who = 0 then .big else .little }
    let server (who : Fin 2) : ServerConfig := { order := (config who).order }
    let map := RegisterMap.set {} 5 7
    let fresh (who : Fin 2) : Client (Connection RegisterMap) := { config := config who, factory := {} }
    let link (who : Fin 2) : Link (Connection RegisterMap) :=
      { peer := Slave.connection (server who) {} map }
    let site : Site 2 :=
      { map, clients := fun who => ((fresh who).connect false (.established (link who))).2
        endpoints := fun _ => ⟨.v4 0, 502⟩ }
    let calls := [(0, .write 1 5 300), (1, .read 2 5 1), (1, .read 2 4 2), (0, .writeMultiple 1 5 [])]
    (∀ who, (site.clients who).Opened (config who) (server who) {} site.map) ∧
      (site.run calls).1 = [.ok (.value none), .ok (.value (some [1, 44])), .ok (.exception 2),
        .error (.protocol .emptySpan)] ∧
      (site.run calls).2.map.get? 5 = some 300 := by
  intro config server map fresh link site calls
  have opened (who : Fin 2) : (site.clients who).Opened (config who) (server who) {} site.map :=
    Client.opened_connect {} map rfl ⟨[], rfl⟩ (ClientConfig.validate_default (by decide) _)
  have holds : site.map.get? = fun address => if 5 = address then some 7 else none := by
    funext address
    show map.get? address = _
    rw [RegisterMap.get?_set, RegisterMap.get?_empty]
  have expected : Registers.run site.map.get? (calls.map (·.2)) =
      ([.ok (.value none), .ok (.value (some [1, 44])), .ok (.exception 2),
        .error (.protocol .emptySpan)], Registers.replace site.map.get? 5 [300]) := by
    rw [holds]
    rfl
  obtain ⟨results, last, _⟩ := run_eq_registers_run site
    (fun who => ⟨_, _, _, (show 261 ≤ 16384 by decide), (show 261 ≤ 16384 by decide), opened who⟩) calls
  have found := congrFun (last.trans (congrArg Prod.snd expected)) 5
  exact ⟨opened, results.trans (congrArg Prod.fst expected), found⟩

end Site

end ModbusTcp
