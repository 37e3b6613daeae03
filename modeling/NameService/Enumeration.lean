import NameService.Lookup.Answer

/-!
All records of a database, one by one. An enumeration stands on three places at once: a part of the
tree, a page of the answer there, and a record of the entry at hand. A record that does not fit into
the caller's memory stays at hand, so that the next call can give it.
-/

namespace NameService

structure Enumeration where
  lookup : Option Lookup := none
  pending : Option MessageId := none
  entry : Option Entry := none
  cookie : List UInt8 := []
  index : Nat := 0
  position : Position := .start
  retrying : Bool := false
  /-- The generation of the connection on which the search was started. -/
  generation : Nat := 0
deriving Repr

namespace Enumeration

def isActive (e : Enumeration) : Bool := e.pending.isSome || e.entry.isSome

def reset (e : Enumeration) : Enumeration := { lookup := e.lookup, generation := e.generation }

def dropEntry (e : Enumeration) : Enumeration := { e with entry := none, position := .start }

/-- What a parser made of the entry at hand. -/
inductive Offer (ρ : Type) where
  | taken (record : ρ)
  | passed
  | refused (error : Error)

/-- Offers an entry to a parser. The entry stays at hand while it holds more records, or when its
    record did not fit. -/
def offer {ρ : Type} (e : Enumeration) (entry : Entry) (parser : RecordParser ρ) (arena : Arena) :
    Offer ρ × Enumeration × Arena :=
  let parse := parser entry e.position arena
  match parse.outcome with
  | .ok (some record) =>
    let e := { e with retrying := false }
    -- A parser that is done with the entry leaves no index.
    (.taken record,
      if parse.position.needsEntry then e.dropEntry else { e with position := parse.position },
      parse.arena)
  | .error (.bufferTooSmall requested remaining) =>
    (.refused (.bufferTooSmall requested remaining), { e with retrying := true },
      parse.arena.rollback arena.mark)
  | .ok none | .error _ => (.passed, e.dropEntry, parse.arena.rollback arena.mark)

open Engine

variable {σ : Type} [Service σ]

/-- Gives up the search in progress. The server is told only on the connection that carries the
    search, and only by the process that made it. -/
def abandon (e : Enumeration) : Engine σ Enumeration := do
  let rest := { e with pending := none }
  if ← Session.releaseInherited then return rest
  if let some id := e.pending then
    let session ← session
    if e.generation = session.generation then
      if let some link := session.link then
        let _ ← perform (.abandon link.connection id)
  return rest

def nothing : Error := .notFound "nothing to enumerate"

def exhausted : Error := .notFound "enumeration exhausted"

/-- The search in progress went with the connection that carried it. -/
def interrupted : Error := .unavailable "directory connection was reset during enumeration"

/-- Begins at the first record of an answer. -/
def start (e : Enumeration) (lookup : Lookup) : Engine σ (Except Error Unit × Enumeration) := do
  let e := (← e.abandon).reset
  match ← (lookup.start 0).run with
  | .error error => return (.error error, e)
  | .ok id =>
    let e := { e with
      lookup := some lookup
      pending := id
      generation := (← session).generation }
    if id.isNone then return (.error nothing, e)
    else return (.ok (), e)

/-- Asks for the page that the enumeration stands on. -/
def startNext (e : Enumeration) : Engine σ (Except Error Unit × Enumeration) := do
  match e.lookup with
  | none => return (.ok (), { e with pending := none })
  | some lookup =>
    match ← (lookup.startPage e.index e.cookie).run with
    | .ok id => return (.ok (), { e with pending := id })
    | .error error => return (.error error, e.reset)

/-- After the end of a search comes the next page, or the next part of the tree. -/
def finish (e : Enumeration) (done : Done) : Engine σ (Except Error Unit × Enumeration) := do
  let status := ResultCode.status done.code
  if status ≠ .success ∧ status ≠ .notFound then
    return (.error (.directory done.code done.reason), e.reset)
  match done.nextPage? with
  | some cookie => startNext { e with pending := none, cookie := cookie }
  | none =>
    -- No page follows, so the next part of the tree is asked for its first.
    let (result, e) ← startNext { e with pending := none, cookie := [], index := e.index + 1 }
    match result, e.pending with
    | .ok (), none => return (.error exhausted, e)
    | _, _ => return (result, e)

def take (e : Enumeration) : Message → Engine σ (Except Error Unit × Enumeration)
  | .entry entry => return (.ok (), { e with entry := some entry, position := .start })
  | .reference => return (.ok (), e)
  | .done done => e.finish done

/-- Receives the next message. A connection that is not the one on which the search was started
    knows nothing of it. -/
def fetch (e : Enumeration) : Engine σ (Except Error Unit × Enumeration) := do
  let some id := e.pending | return (.error exhausted, e)
  match ← Session.ensureReady.run with
  | .error error => return (.error error, e)
  | .ok () =>
    let session ← session
    let some link := session.link | return (.error interrupted, e.reset)
    if e.generation ≠ session.generation then return (.error interrupted, e.reset)
    match ← perform (.next link.connection id) with
    | .error error =>
      if error.isUnavailable then close
      return (.error error, e.reset)
    | .ok message => e.take message

/-- The next record. Patience bounds the messages that are received and the entries that are passed
    over for it. -/
def next {ρ : Type} (parser : RecordParser ρ) :
    Nat → Enumeration → Arena → Engine σ (Reading ρ × Enumeration)
  | 0, _, _ => outOfPatience
  | patience + 1, e, arena => do
    match e.entry with
    | none =>
      match ← e.fetch with
      | (.error error, e) => return (⟨.error error, arena⟩, e)
      | (.ok (), e) => next parser patience e arena
    | some entry =>
      match e.offer entry parser arena with
      | (.taken record, e, arena) =>
        touch
        return (⟨.ok record, arena⟩, e)
      | (.refused error, e, arena) => return (⟨.error error, arena⟩, e)
      | (.passed, e, arena) => next parser patience e arena

/-- Ends an enumeration before its end or after it. -/
def stop (e : Enumeration) : Engine σ Enumeration := do
  let e := (← e.abandon).reset
  match (← session).loaded with
  | some loaded => if loaded.config.flags.oneShot then close
  | none => pure ()
  return { e with lookup := none }

/-- The next entry, or none after the last. -/
def nextEntry : Nat → Enumeration → Engine σ (Except Error (Option Entry) × Enumeration)
  | 0, _ => outOfPatience
  | patience + 1, e => do
    match e.entry with
    | some entry => return (.ok (some entry), e.dropEntry)
    | none =>
      match ← e.fetch with
      | (.ok (), e) => nextEntry patience e
      | (.error (.notFound _), e) => return (.ok none, e)
      | (.error error, e) => return (.error error, e)

end Enumeration

end NameService
