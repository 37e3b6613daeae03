import NameService.Proofs.Lookup.Readings
import NameService.Proofs.Membership.Lasting
import NameService.Proofs.Membership.Nesting
import NameService.Proofs.Membership.Recollection

/-!
Walks through a directory that has an answer to everything. When no call fails and every name is
looked up in one catalogue, what a session remembers agrees with the catalogue, and the program
walks through the groups as the catalogue has them.

## Main result

`Membership.run_walkGroup`: a walk on a session comes to what the catalogue says.
-/

namespace NameService

open Engine

/-- What is told of an entry that is looked for. That there is none can be told in two ways. -/
def Tells (found : Option Entry) : Except Error (List Entry) → Prop
  | .ok entries => entries.head? = found
  | .error error => error.status = .notFound ∧ found = none

theorem Tells.told {found : Option Entry} {answer : Except Error (List Entry)}
    (tells : Tells found answer) : told answer = .ok found := by
  cases answer with
  | ok entries => exact congrArg Except.ok tells
  | error error =>
    obtain ⟨missing, rfl⟩ := tells
    exact if_pos missing

/-- No call fails that has to do with connections, and names are looked up in a catalogue. -/
structure Service.Consults (σ : Type) [Service σ] (config : Config) (attributes : List String)
    (catalogue : Catalogue) : Prop where
  located : config.uris ≠ []
  loads : ∀ outside : σ, (Service.answer .load outside).1 = .ok config
  connects : ∀ (options : ConnectOptions) (outside : σ),
    (Service.answer (.connect options) outside).1 = .ok ()
  binds : ∀ (connection : Connection) (name password : String) (outside : σ),
    (Service.answer (.bind connection name password) outside).1 = .ok ()
  reads : ∀ (connection : Connection) (name : String) (outside : σ),
    Tells (catalogue.entry? name) (Service.answer
      (.search connection (.read name attributes config.timeLimit)) outside).1

variable {σ : Type} [Service σ] {config : Config} {attributes : List String}
  {catalogue : Catalogue}

theorem Service.Consults.opens (consults : Consults σ config attributes catalogue) :
    Opens σ config :=
  ⟨consults.located, consults.loads, consults.connects, consults.binds⟩

/-- What a session remembers agrees with the configuration and the catalogue. -/
structure Session.Informed (config : Config) (plan : Membership.Plan) (catalogue : Catalogue)
    (session : Session) : Prop where
  loaded : ∀ loaded, session.loaded = some loaded → loaded.config = config
  placed : session.Placed
  uids : ∀ name uid, session.uid? name = some uid →
    Membership.stands catalogue plan name = .user uid

namespace Session

variable {plan : Membership.Plan}

theorem informed_iff {session : Session} : Informed config plan catalogue session ↔
    Recalls config (Membership.stands catalogue plan) session :=
  ⟨fun informed => ⟨⟨informed.loaded, informed.placed⟩, informed.uids⟩,
    fun recalls => ⟨recalls.loaded, recalls.placed, recalls.uids⟩⟩

theorem informed_new : Informed config plan catalogue {} := informed_iff.mpr recalls_new

theorem informed_lasting (consults : Service.Consults σ config attributes catalogue)
    (plan : Membership.Plan) : Lasting σ (Informed config plan catalogue) := by
  have same : Informed config plan catalogue = Recalls config (Membership.stands catalogue plan) :=
    funext fun _ => propext informed_iff
  exact same ▸ recalls_lasting consults.opens

end Session

namespace Membership

variable {plan : Plan}

theorem stands_eq (name : String) :
    stands catalogue plan name = .ofEntry plan (catalogue.entry? name) := rfl

theorem stands_fold {name other : String} (same : Text.fold name = Text.fold other) :
    stands catalogue plan name = stands catalogue plan other := by
  rw [stands_eq, stands_eq, catalogue.entry?_fold same]

section Walks

variable (consults : Service.Consults σ config plan.memberAttributes catalogue)
include consults

/-- To read an entry is to look it up in the catalogue. -/
theorem run_read {world : World σ} (informed : world.session.Informed config plan catalogue)
    (name : String) :
    ∃ later, (Entry.read name plan.memberAttributes).run world =
        some (.ok (catalogue.entry? name), later) ∧
      later.session.Informed config plan catalogue := by
  have serves : Failover.Serves config (Entry.readOnce name plan.memberAttributes : Action σ _)
      (.ok (catalogue.entry? name)) := by
    rintro world loaded link configured rfl held
    have ran := Entry.run_readOnce configured held name plan.memberAttributes
    have tells := consults.reads link.connection name world.outside
    exact ⟨_, ran.trans (by rw [World.answer, tells.told])⟩
  have suits := (Session.informed_iff.mp informed).toSuits
  obtain ⟨later, ran⟩ := Failover.run_of_serves consults.opens serves suits
  have lasting := (Session.informed_lasting consults plan).world
  refine ⟨_, ran, ?_⟩
  have asked := Failover.run_lasts lasting
    (Entry.readOnce_lasts (fun _ _ _ kept => kept) name plan.memberAttributes)
  exact asked.ends informed _ _ ran

/-- A name is followed to what it stands for in the catalogue. -/
theorem run_follow {world : World σ} (informed : world.session.Informed config plan catalogue)
    (into : Entry → Walk → Brittle σ Walk) (walk : Walk) (value : String) :
    ∃ later, (follow plan into walk value).run world =
        (visit plan into walk (stands catalogue plan (DistinguishedName.withoutUid value))).run
          later ∧
      later.session.Informed config plan catalogue := by
  obtain ⟨later, read, kept⟩ := run_read consults informed (DistinguishedName.withoutUid value)
  obtain ⟨outcome, later, ran, stands, recalls⟩ :=
    run_resolve stands_fold (Session.informed_iff.mp informed)
      ⟨_, later, read, rfl, Session.informed_iff.mp kept⟩
  refine ⟨later, ?_, Session.informed_iff.mpr recalls⟩
  simp [follow, ran, stands]

omit consults in
theorem run_memberNames {entry : Entry} (unranged : entry.range? plan.names.uniqueMember = none)
    (world : World σ) :
    (memberNames plan entry).run world =
      some (.ok (entry.values plan.names.uniqueMember), world) := by
  have nothing : retrieve plan.names.uniqueMember entry.name none
      (entry.range? plan.names.uniqueMember) world = some ({}, world) := by
    rw [unranged, retrieve]
    rfl
  simpa [Retrieval.values] using run_memberNames_of_retrieve nothing

/-- A walk on a session comes to what the catalogue says. -/
theorem run_walkGroup (unranged : ∀ name entry, catalogue.entry? name = some entry →
    entry.range? plan.names.uniqueMember = none) :
    ∀ (levels level : Nat) (entry : Entry) (walk : Walk) (world : World σ),
      entry.range? plan.names.uniqueMember = none →
      world.session.Informed config plan catalogue →
      ∃ later, (walkGroup plan levels level entry walk).run world =
          some (.ok (tour catalogue plan levels entry walk), later) ∧
        later.session.Informed config plan catalogue
  | 0, _, _, walk, world, _, informed => ⟨world, rfl, informed⟩
  | levels + 1, level, entry, walk, world, whole, informed => by
    rw [walkGroup_succ, tour]
    by_cases met : walk.seen.contains entry.name
    · exact ⟨world, by simp [met], informed⟩
    -- What a member stands for is the same however much has been read before, so one step of the
    -- walk does what one step of the tour does.
    have steps : ∀ value ∈ entry.values plan.names.uniqueMember, ∀ (walk : Walk) (world : World σ),
        world.session.Informed config plan catalogue → ∃ later,
          (follow plan (walkGroup plan levels (level + 1)) walk value).run world =
              some (.ok (enter plan (tour catalogue plan levels) walk
                (stands catalogue plan (DistinguishedName.withoutUid value))), later) ∧
            later.session.Informed config plan catalogue := by
      intro value _ walk world informed
      obtain ⟨later, ran, informed⟩ :=
        run_follow consults informed (walkGroup plan levels (level + 1)) walk value
      rw [ran]
      cases is : stands catalogue plan (DistinguishedName.withoutUid value) with
      | user uid => exact ⟨later, rfl, informed⟩
      | group inner =>
        have found := (stands_eq_group is).1
        simp only [visit, enter]
        split
        · exact run_walkGroup unranged levels _ inner walk later (unranged _ inner found) informed
        · exact ⟨later, rfl, informed⟩
      | unknown => exact ⟨later, rfl, informed⟩
    let noted : World σ := { world with visits := .scan level entry.name :: world.visits }
    obtain ⟨later, ran, informed⟩ :=
      run_action_foldlM _ steps (walk.meet entry.name) noted informed
    refine ⟨later, ?_, informed⟩
    simp only [met, Bool.false_eq_true, if_false, run_action_bind, run_lift, run_noteVisit,
      Option.map_some, Option.bind_some, run_memberNames whole]
    rw [ran]
    rfl

end Walks

end Membership

end NameService
