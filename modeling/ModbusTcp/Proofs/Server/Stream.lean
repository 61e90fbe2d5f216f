import ModbusTcp.Proofs.Framing
import ModbusTcp.Server.Connection

/-!
# Serving a stream that arrives in chunks

A served connection handles what is complete each time that some bytes arrive.  What comes of it does
not depend on where the stream is cut: it is what handling the whole stream at once would give.

* `Framer.serve_of_frame`, `Framer.serve_of_tooLarge`, `Framer.serve_of_incomplete` — one round, by how
  the next frame reads.
* `Framer.serve_append` — serving goes on where it has stopped.
* `Connection.receiveAll_keeps` — what every frame keeps, a history of chunks keeps.
* `Connection.receiveAll` — the chunks of a stream arrive one after the other.
* **`Connection.receiveAll_eq_serve`** — however a stream is cut, its chunks come to what it does whole.
* `Connection.converse`, `Connection.converse_eq_serve` — the same with the end of the stream.
-/

namespace ModbusTcp

variable {σ : Type}

/-! ### One round -/

namespace Framer

section Round

variable {framer : Framer} {handle : Handler σ} {state : σ} {buffer : Bytes}

theorem serve_of_frame (enough : 8 ≤ framer.maxFrame) {bytes rest : Bytes} {inbound : Inbound}
    (pulled : pull framer.order framer.maxFrame buffer = .frame bytes rest)
    (interpreted : framer.interpret bytes = .ok inbound) :
    framer.serve handle state buffer =
      match (handle state inbound).ending with
      | some ending =>
        { state := (handle state inbound).state, buffer := rest,
          replies := (handle state inbound).reply.toList, ending := some ending }
      | none =>
        (framer.serve handle (handle state inbound).state rest).after (handle state inbound).reply := by
  have decoded : framer.decode buffer = .ok (some (inbound, rest)) := by
    rw [decode_eq_pull framer enough, pulled]
    dsimp only
    rw [interpreted]
    rfl
  rw [serve]
  split
  · simp_all
  · simp_all
  · rename_i inbound' rest' decoded'
    rw [decoded] at decoded'
    obtain ⟨rfl, rfl⟩ : inbound = inbound' ∧ rest = rest' := by simpa using decoded'
    rfl

/-- A frame that does not end the connection is handled before what follows it. -/
theorem serve_isWhole_append {bytes : Bytes} (whole : Frame.IsWhole framer.order bytes)
    (fits : bytes.length ≤ framer.maxFrame) {inbound : Inbound}
    (interpreted : framer.interpret bytes = .ok inbound) {next : σ} {reply : Option Frame}
    (turn : handle state inbound = { state := next, reply }) (rest : Bytes) :
    framer.serve handle state (bytes ++ rest) = (framer.serve handle next rest).after reply := by
  have enough : 8 ≤ framer.maxFrame := Nat.le_trans whole.eight_le fits
  rw [serve_of_frame enough (pull_append whole fits rest) interpreted, turn]

theorem serve_of_error {error : FramingError} (failed : framer.decode buffer = .error error) :
    framer.serve handle state buffer = { state, buffer, ending := some (.error error.toIoError) } := by
  rw [serve]
  split <;> simp_all

theorem serve_of_tooLarge (enough : 8 ≤ framer.maxFrame) {length limit : Nat}
    (pulled : pull framer.order framer.maxFrame buffer = .tooLarge length limit) :
    framer.serve handle state buffer =
      { state, buffer, ending := some (.error (FramingError.tooLarge length limit).toIoError) } := by
  apply serve_of_error
  rw [decode_eq_pull framer enough, pulled]

theorem serve_of_incomplete (enough : 8 ≤ framer.maxFrame)
    (pulled : pull framer.order framer.maxFrame buffer = .incomplete) :
    framer.serve handle state buffer = { state, buffer } := by
  have decoded : framer.decode buffer = .ok none := by
    rw [decode_eq_pull framer enough, pulled]
  rw [serve]
  split <;> simp_all

/-- A single frame that does not end the connection leaves nothing behind. -/
theorem serve_of_isWhole (whole : Frame.IsWhole framer.order buffer)
    (fits : buffer.length ≤ framer.maxFrame) {inbound : Inbound}
    (interpreted : framer.interpret buffer = .ok inbound) {next : σ} {reply : Option Frame}
    (turn : handle state inbound = { state := next, reply }) :
    framer.serve handle state buffer = { state := next, buffer := [], replies := reply.toList } := by
  have enough : 8 ≤ framer.maxFrame := Nat.le_trans whole.eight_le fits
  have served := serve_isWhole_append whole fits interpreted turn []
  rw [List.append_nil, serve_of_incomplete enough (pull_nil enough)] at served
  rw [served, Served.after, List.append_nil]

end Round

/-! ### More bytes -/

/-- As long as serving has not ended, it leaves no whole frame behind. -/
theorem pull_serve {framer : Framer} (enough : 8 ≤ framer.maxFrame) (handle : Handler σ) (state : σ)
    (buffer : Bytes) (goesOn : (framer.serve handle state buffer).ending = none) :
    pull framer.order framer.maxFrame (framer.serve handle state buffer).buffer = .incomplete := by
  fun_induction pullAll framer.order framer.maxFrame buffer generalizing state with
  | case1 buffer bytes rest pulled ih =>
    obtain ⟨inbound, interpreted⟩ := framer.interpret_of_isWhole (isWhole_of_pull enough pulled).1
    rw [serve_of_frame enough pulled interpreted] at goesOn ⊢
    cases ended : (handle state inbound).ending with
    | some ending => simp [ended] at goesOn
    | none =>
      rw [ended] at goesOn
      exact ih _ goesOn
  | case2 buffer length limit pulled => simp [serve_of_tooLarge enough pulled] at goesOn
  | case3 buffer pulled =>
    rw [serve_of_incomplete enough pulled]
    exact pulled

/-- **Serving goes on where it has stopped**, unless it has ended. -/
theorem serve_append {framer : Framer} (enough : 8 ≤ framer.maxFrame) (handle : Handler σ) (state : σ)
    (buffer more : Bytes) :
    framer.serve handle state (buffer ++ more) =
      let served := framer.serve handle state buffer
      match served.ending with
      | some _ => { served with buffer := served.buffer ++ more }
      | none =>
        let next := framer.serve handle served.state (served.buffer ++ more)
        { next with replies := served.replies ++ next.replies } := by
  fun_induction pullAll framer.order framer.maxFrame buffer generalizing state with
  | case1 buffer bytes rest pulled ih =>
    obtain ⟨whole, fits, rfl⟩ := isWhole_of_pull enough pulled
    obtain ⟨inbound, interpreted⟩ := framer.interpret_of_isWhole whole
    rw [List.append_assoc, serve_of_frame enough (pull_append whole fits (rest ++ more)) interpreted,
      serve_of_frame enough pulled interpreted]
    cases ended : (handle state inbound).ending with
    | some ending => rfl
    | none =>
      dsimp only
      rw [ih]
      dsimp only
      cases later : (framer.serve handle (handle state inbound).state rest).ending <;>
        simp [Served.after, later]
  | case2 buffer length limit pulled =>
    rw [serve_of_tooLarge enough (pull_append_of_tooLarge enough pulled more),
      serve_of_tooLarge enough pulled]
  | case3 buffer pulled =>
    rw [serve_of_incomplete enough pulled]
    simp

/-- What every frame keeps that does not end the connection, serving keeps, unless it ends. -/
theorem serve_keeps {framer : Framer} {handle : Handler σ} (Kept : σ → Prop)
    (keeps : ∀ state inbound, Kept state → (handle state inbound).ending = none →
      Kept (handle state inbound).state) {state : σ} {buffer : Bytes} (holds : Kept state)
    (goesOn : (framer.serve handle state buffer).ending = none) :
    Kept (framer.serve handle state buffer).state := by
  fun_induction serve framer handle state buffer with
  | case1 state buffer error decoded => exact nomatch goesOn
  | case2 state buffer decoded => exact holds
  | case3 state buffer inbound rest decoded turn ending ended => exact nomatch goesOn
  | case4 state buffer inbound rest decoded turn ended ih => exact ih (keeps _ _ holds ended) goesOn

end Framer

/-! ### Chunk after chunk -/

namespace Connection

variable {handle : Handler σ}

/-- The chunks of a stream arrive, one after the other. -/
def receiveAll (handle : Handler σ) (connection : Connection σ) :
    List Bytes → Connection σ × List Frame
  | [] => (connection, [])
  | chunk :: chunks =>
    let (connection, replies) := connection.receive handle chunk
    let (connection, more) := connection.receiveAll handle chunks
    (connection, replies ++ more)

/-- What a connection has come to: its state, how it has ended, and what it has replied.  While it goes
on, that includes what is left in its buffer; after that nothing reads the buffer any more. -/
structure Outcome (connection : Connection σ) (served : Served σ) : Prop where
  state : connection.state = served.state
  ending : connection.ending = served.ending
  buffer : served.ending = none → connection.buffer = served.buffer

/-- A chunk that completes a single frame, which does not end the connection, leaves nothing under way. -/
theorem receive_of_isWhole (connection : Connection σ) (goesOn : connection.ending = none)
    {chunk bytes : Bytes} (completes : connection.buffer ++ chunk = bytes)
    (whole : Frame.IsWhole connection.framer.order bytes)
    (fits : bytes.length ≤ connection.framer.maxFrame) {inbound : Inbound}
    (interpreted : connection.framer.interpret bytes = .ok inbound) {next : σ} {reply : Option Frame}
    (turn : handle connection.state inbound = { state := next, reply }) :
    connection.receive handle chunk =
      ({ connection with state := next, buffer := [] }, reply.toList) := by
  rw [receive, goesOn]
  dsimp only
  rw [completes, Framer.serve_of_isWhole whole fits interpreted turn]

theorem receiveAll_of_ended {connection : Connection σ} {ending : Ending}
    (ended : connection.ending = some ending) (chunks : List Bytes) :
    connection.receiveAll handle chunks = (connection, []) := by
  induction chunks with
  | nil => rfl
  | cons chunk chunks ih =>
    have ignored : connection.receive handle chunk = (connection, []) := by
      rw [receive, ended]
    rw [receiveAll, ignored]
    dsimp only
    rw [ih]
    rfl

/-- **Where a stream is cut does not matter.**  A connection that has no whole frame in its buffer comes
to the same with all chunks of a stream, one after the other, as with the stream in one piece. -/
theorem receiveAll_eq_serve (connection : Connection σ) (enough : 8 ≤ connection.framer.maxFrame)
    (goesOn : connection.ending = none)
    (idle : pull connection.framer.order connection.framer.maxFrame connection.buffer = .incomplete)
    (chunks : List Bytes) :
    let served :=
      connection.framer.serve handle connection.state (connection.buffer ++ chunks.flatten)
    (connection.receiveAll handle chunks).1.Outcome served ∧
      (connection.receiveAll handle chunks).1.framer = connection.framer ∧
      (connection.receiveAll handle chunks).2 = served.replies := by
  induction chunks generalizing connection with
  | nil =>
    rw [List.flatten_nil, List.append_nil, Framer.serve_of_incomplete enough idle]
    exact ⟨⟨rfl, goesOn, fun _ => rfl⟩, rfl, rfl⟩
  | cons chunk chunks ih =>
    rw [List.flatten_cons, ← List.append_assoc, Framer.serve_append enough, receiveAll, receive, goesOn]
    dsimp only
    cases ended : (connection.framer.serve handle connection.state (connection.buffer ++ chunk)).ending with
    | some ending =>
      -- The connection has ended, and what has not arrived by then is not read.
      rw [receiveAll_of_ended rfl]
      dsimp only
      rw [List.append_nil]
      exact ⟨⟨rfl, rfl, nofun⟩, rfl, rfl⟩
    | none =>
      have left := Framer.pull_serve enough handle connection.state (connection.buffer ++ chunk) ended
      obtain ⟨⟨state, ending, buffer⟩, framer, replies⟩ := ih { connection with
        state := (connection.framer.serve handle connection.state (connection.buffer ++ chunk)).state
        buffer := (connection.framer.serve handle connection.state (connection.buffer ++ chunk)).buffer
        ending := none } enough rfl left
      exact ⟨⟨state, ending, buffer⟩, framer, by rw [replies]⟩

/-- What every frame keeps that does not end the connection, a history of chunks keeps, unless it ends. -/
theorem receiveAll_keeps (Kept : σ → Prop)
    (keeps : ∀ state inbound, Kept state → (handle state inbound).ending = none →
      Kept (handle state inbound).state) {connection : Connection σ} (holds : Kept connection.state)
    (chunks : List Bytes) (goesOn : (connection.receiveAll handle chunks).1.ending = none) :
    (connection.receiveAll handle chunks).1.framer = connection.framer ∧
      Kept (connection.receiveAll handle chunks).1.state := by
  induction chunks generalizing connection with
  | nil => exact ⟨rfl, holds⟩
  | cons chunk chunks ih =>
    rw [receiveAll] at goesOn ⊢
    cases ended : connection.ending with
    | some ending =>
      rw [receive, ended] at goesOn ⊢
      exact ih holds goesOn
    | none =>
      rw [receive, ended] at goesOn ⊢
      dsimp only at goesOn ⊢
      cases served : (connection.framer.serve handle connection.state (connection.buffer ++ chunk)).ending with
      | some ending =>
        rw [receiveAll_of_ended served] at goesOn
        exact absurd (served.symm.trans goesOn) nofun
      | none =>
        rw [served] at goesOn
        exact ih (Framer.serve_keeps Kept keeps holds served) goesOn

/-- What becomes of a connection whose peer has written a stream in chunks and ended its side, and what
it has written back. -/
def converse (handle : Handler σ) (connection : Connection σ) (chunks : List Bytes) :
    Connection σ × Bytes :=
  let (connection, replies) := connection.receiveAll handle chunks
  (connection.finish, encodeReplies connection.framer replies)

theorem finish_of_ended {connection : Connection σ} {ending : Ending}
    (ended : connection.ending = some ending) : connection.finish = connection := by
  rw [finish, ended]

/-- Nothing but the beginning of a frame may be left at the end of a stream. -/
theorem finish_of_idle {connection : Connection σ} (enough : 8 ≤ connection.framer.maxFrame)
    (goesOn : connection.ending = none)
    (idle : pull connection.framer.order connection.framer.maxFrame connection.buffer = .incomplete) :
    connection.finish = { connection with
      ending := some (if connection.buffer = [] then .ok () else .error .bytesRemaining) } := by
  have decoded : connection.framer.decode connection.buffer = .ok none := by
    rw [Framer.decode_eq_pull _ enough, idle]
  rw [finish, goesOn]
  dsimp only
  rw [Framer.decodeLast, decoded]
  dsimp only
  by_cases empty : connection.buffer = []
  · simp [empty]
  · simp [empty]
    rfl

/-- A new connection comes to what serving the whole stream comes to.  If that does not end it, the
end of the stream does, and without an error only if nothing of the stream is left. -/
theorem converse_eq_serve (handle : Handler σ) (framer : Framer) (enough : 8 ≤ framer.maxFrame)
    (state : σ) (chunks : List Bytes) :
    let served := framer.serve handle state chunks.flatten
    let (connection, written) := converse handle { framer, state } chunks
    written = encodeReplies framer served.replies ∧ connection.state = served.state ∧
      connection.ending = some (served.ending.getD
        (if served.buffer = [] then .ok () else .error .bytesRemaining)) := by
  intro served
  obtain ⟨⟨same, ending, buffer⟩, kept, replies⟩ :
      Outcome _ served ∧ _ = framer ∧ _ = served.replies :=
    receiveAll_eq_serve { framer, state } enough rfl (pull_nil enough) chunks
  rw [converse]
  dsimp only
  rw [kept, replies]
  cases ended : served.ending with
  | some result =>
    rw [ended] at ending
    rw [finish_of_ended ending]
    exact ⟨rfl, same, ending⟩
  | none =>
    have idle : pull framer.order framer.maxFrame served.buffer = .incomplete :=
      Framer.pull_serve enough handle state _ ended
    rw [ended] at ending
    rw [finish_of_idle (by rw [kept]; exact enough) ending (by rw [kept, buffer ended]; exact idle),
      buffer ended]
    exact ⟨rfl, same, rfl⟩

/-- If nothing of the stream is left and no frame has ended the connection, it ends without an error. -/
theorem converse_of_goesOn (handle : Handler σ) (framer : Framer) (enough : 8 ≤ framer.maxFrame) (state : σ)
    (chunks : List Bytes) {stream : Bytes} (sent : chunks.flatten = stream)
    (goesOn : (framer.serve handle state stream).ending = none)
    (empty : (framer.serve handle state stream).buffer = []) :
    let served := framer.serve handle state stream
    let (connection, written) := converse handle { framer, state } chunks
    written = encodeReplies framer served.replies ∧ connection.state = served.state ∧
      connection.ending = some (.ok ()) := by
  subst sent
  obtain ⟨written, same, ended⟩ := converse_eq_serve handle framer enough state chunks
  refine ⟨written, same, ended.trans ?_⟩
  rw [goesOn, Option.getD_none, if_pos empty]

/-- A connection whose frames may not even hold a length field handles nothing. -/
theorem converse_of_lt (handle : Handler σ) (framer : Framer) (small : framer.maxFrame < 8) (state : σ)
    (chunks : List Bytes) :
    let (connection, written) := converse handle { framer, state } chunks
    written = [] ∧ connection.state = state := by
  have failed (buffer : Bytes) : framer.decode buffer =
      .error (.tooLarge (Frame.expectedLength framer.order buffer) framer.maxFrame) := by
    have least := Frame.eight_le_expectedLength framer.order buffer
    exact if_pos (by omega)
  cases chunks with
  | nil =>
    have finished : finish { framer, state } = { framer, state, ending := some (.error
        (FramingError.tooLarge (Frame.expectedLength framer.order []) framer.maxFrame).toIoError) } := by
      simp only [finish, Framer.decodeLast, failed]
    rw [converse, receiveAll]
    dsimp only
    rw [finished]
    exact ⟨rfl, rfl⟩
  | cons chunk chunks =>
    rw [converse, receiveAll, receive]
    dsimp only
    rw [List.nil_append, Framer.serve_of_error (failed chunk)]
    dsimp only
    rw [receiveAll_of_ended rfl, finish_of_ended rfl]
    exact ⟨rfl, rfl⟩

end Connection

end ModbusTcp
