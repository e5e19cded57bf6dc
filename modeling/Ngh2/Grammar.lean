import Ngh2.Lib.Letters
import Ngh2.Records

/-!
# The grammar of the messages of a stream

What an endpoint sends on one stream is a word of messages. A client sends one
request, a server informational responses and then one final response; either
is the whole message, or is followed by chunks of a body and by at most one
message that ends it. `grammar` writes this down as a regular language for each
role, and says nothing of how it is enforced.

A word of the grammar can be read from the left with three phases
(`Phase.next`): the message was not begun, its body is being sent, or it is
complete. `mem_grammar_iff` says that this is the grammar; what follows a word
depends on its phase alone.
-/

namespace Ngh2

open Computability Language

namespace Message

/-- The chunks that leave a body open. -/
def chunks : Set Message := {x | ∃ chunk, x = .data chunk false}

/-- The messages that end a body. -/
def terminators : Set Message :=
  {x | (∃ chunk, x = .data chunk true) ∨ ∃ headers, x = .trailers headers}

/-- What may follow the head of a message: chunks, and then at most one
message that ends the body. -/
def bodies : Language Message := (letters chunks)∗ * (1 + letters terminators)

/-- A message from its head on: the head ends it, or a body follows. -/
def headed (head : Bool → Message) : Language Message :=
  letters {head true} + letters {head false} * bodies

/-- **What may be sent on a stream**, by a server and by a client. -/
def grammar (server : Bool) : Language Message :=
  if server then (letters {.informational})∗ * (1 + headed .response) else 1 + headed .request

/-! ## Reading a word from the left -/

/-- How far the message of a stream is. -/
inductive Phase where
  /-- Its head was not sent. -/
  | fresh
  /-- Its body is being sent. -/
  | sending
  /-- It is complete. -/
  | finished
  deriving DecidableEq, Repr

namespace Phase

/-- The phase after a head or a chunk. -/
def begun (endStream : Bool) : Phase := if endStream then .finished else .sending

/-- **The phase after one more message**, where the message is in order. -/
def next (server : Bool) : Phase → Message → Option Phase
  | .fresh, .request endStream => if server then none else some (begun endStream)
  | .fresh, .informational => if server then some .fresh else none
  | .fresh, .response endStream => if server then some (begun endStream) else none
  | .sending, .data _ endStream => some (begun endStream)
  | .sending, .trailers _ => some .finished
  | _, _ => none

/-- What may still be sent in a phase. -/
def rest (server : Bool) : Phase → Language Message
  | .fresh => grammar server
  | .sending => bodies
  | .finished => 1

variable {server : Bool} {p : Phase} {x : Message} {w : List Message}

/-- A message may stop at any point: whether it is ever completed is up to the
caller. -/
theorem nil_mem_rest (server : Bool) (p : Phase) : [] ∈ rest server p := by
  cases p with
  | fresh =>
    cases server with
    | true => exact nil_mem_kstar_letters_mul.mpr (.inl rfl)
    | false => exact .inl rfl
  | sending => exact nil_mem_kstar_letters_mul.mpr (.inl rfl)
  | finished => rfl

/-- The rest of a body. -/
theorem cons_mem_bodies :
    x :: w ∈ bodies ↔ ∃ q, next server .sending x = some q ∧ w ∈ rest server q := by
  rw [bodies, cons_mem_kstar_letters_mul, ← bodies, mem_add, mem_one, cons_mem_letters]
  cases x with
  | data chunk endStream =>
    cases endStream <;> simp [chunks, terminators, next, begun, rest, mem_one]
  | trailers headers => simp [chunks, terminators, next, rest, mem_one]
  | _ => simp [chunks, terminators, next]

/-- A message from its head on. -/
theorem cons_mem_headed (server : Bool) {head : Bool → Message} :
    x :: w ∈ headed head ↔ ∃ endStream, x = head endStream ∧ w ∈ rest server (begun endStream) := by
  rw [headed, mem_add, cons_mem_letters, cons_mem_letters_mul, Bool.exists_bool, or_comm]
  rfl

/-- The messages of a client, from the first one on. -/
theorem cons_mem_client :
    x :: w ∈ grammar false ↔ ∃ q, next false .fresh x = some q ∧ w ∈ rest false q := by
  rw [show grammar false = 1 + headed .request from rfl, mem_add, mem_one,
    or_iff_right (List.cons_ne_nil x w), cons_mem_headed false]
  cases x <;> simp [next]

/-- The messages of a server, from the first one on. -/
theorem cons_mem_server :
    x :: w ∈ grammar true ↔ ∃ q, next true .fresh x = some q ∧ w ∈ rest true q := by
  rw [show grammar true = (letters {.informational})∗ * (1 + headed .response) from rfl,
    cons_mem_kstar_letters_mul, mem_add, mem_one, or_iff_right (List.cons_ne_nil x w),
    cons_mem_headed true]
  cases x <;> simp [next, rest, grammar]

/-- **The first message moves the phase**, and what follows is what may be
sent in the phase it moves to. -/
theorem cons_mem_rest :
    x :: w ∈ rest server p ↔ ∃ q, next server p x = some q ∧ w ∈ rest server q := by
  cases p with
  | fresh =>
    cases server with
    | true => exact cons_mem_server
    | false => exact cons_mem_client
  | sending => exact cons_mem_bodies
  | finished => simp [rest, next, mem_one]

/-- The phase after a word, where the word is in order. -/
def after (server : Bool) (p : Phase) (w : List Message) : Option Phase :=
  w.foldlM (next server) p

/-- A word is in order exactly if it may be sent. -/
theorem mem_rest_iff : w ∈ rest server p ↔ ∃ q, after server p w = some q := by
  induction w generalizing p with
  | nil => exact iff_of_true (nil_mem_rest server p) ⟨p, rfl⟩
  | cons x w ih =>
    have hafter (q : Phase) : after server p (x :: w) = some q ↔
        ∃ p', next server p x = some p' ∧ after server p' w = some q := Option.bind_eq_some_iff
    rw [cons_mem_rest]
    simp only [ih, hafter]
    exact ⟨fun ⟨p', hp', q, hq⟩ => ⟨q, p', hp', hq⟩, fun ⟨q, p', hp', hq⟩ => ⟨p', hp', q, hq⟩⟩

/-- The phase after a word and one more message. -/
theorem after_concat : after server p (w ++ [x]) = (after server p w).bind (next server · x) := by
  rw [after, List.foldlM_append]
  refine bind_congr fun q => ?_
  exact Option.bind_fun_some (next server q x)

end Phase

/-- **A word is in the grammar exactly if it can be read.** -/
theorem mem_grammar_iff {server : Bool} {w : List Message} :
    w ∈ grammar server ↔ ∃ p, Phase.after server .fresh w = some p :=
  Phase.mem_rest_iff (p := .fresh)

end Message

end Ngh2
