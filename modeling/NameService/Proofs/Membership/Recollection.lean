import NameService.Directory
import NameService.Proofs.Session.Opens

/-!
What a session remembers of users. It is emptied when the connection or the configuration goes, or
when there is no room left; all that has to be true of it is that a name which is remembered stands
for what a fresh look would find. With that, it makes no difference whether a name is looked up or
remembered.

## Main results

- `Session.recalls_lasting`, `Session.recalls_learn`: what is remembered stays true.
- `Membership.run_resolve`: what a name is resolved to does not depend on what is remembered.
- `Membership.run_expand`: nor does the plan with which a question begins.
-/

namespace NameService

open Engine

/-- What the entry of a name says that the name stands for. -/
def Membership.Resolved.ofEntry (plan : Plan) : Option Entry → Resolved
  | none => .unknown
  | some entry =>
    if entry.hasClass plan.names.posixGroup then .group entry
    else match entry.first? plan.names.uid with
      | none => .unknown
      | some uid => .user uid

namespace Session

/-- A session with this configuration that remembers nothing false of what names stand for. -/
structure Recalls (config : Config) (is : String → Membership.Resolved) (session : Session) : Prop
    extends Suits config session where
  uids : ∀ name uid, session.uid? name = some uid → is name = .user uid

variable {config : Config} {is : String → Membership.Resolved}

theorem uid?_of_nil {session : Session} (nil : session.uids = []) (name : String) :
    session.uid? name = none := by
  rw [uid?, nil]
  rfl

theorem Suits.recalls {session : Session} (suits : session.Suits config)
    (nil : session.uids = []) : session.Recalls config is :=
  ⟨suits, fun name uid found => by simp [uid?_of_nil nil] at found⟩

theorem recalls_new : Recalls config is {} := (suits_new config).recalls rfl

/-- What is forgotten with a connection or a configuration cannot become false. -/
theorem recalls_lasting {σ : Type} [Service σ] (opens : Service.Opens σ config) :
    Lasting σ (Recalls config is) where
  adopt session loaded outside answered located recalls :=
    ((suits_lasting opens).adopt session loaded outside answered located recalls.toSuits).recalls
      rfl
  hold session link recalls :=
    ⟨(suits_lasting opens).hold session link recalls.toSuits, recalls.uids⟩
  dropLink session recalls := ((suits_lasting opens).dropLink session recalls.toSuits).recalls rfl
  clearFork session recalls :=
    ⟨(suits_lasting opens).clearFork session recalls.toSuits, recalls.uids⟩
  touch session now recalls :=
    ⟨(suits_lasting opens).touch session now recalls.toSuits, recalls.uids⟩
  advance session recalls := ⟨(suits_lasting opens).advance session recalls.toSuits, recalls.uids⟩

/-- What is learned is true of all spellings of the name, if the name stands for it. -/
theorem recalls_learn
    (fold : ∀ {name other : String}, Text.fold name = Text.fold other → is name = is other)
    {session : Session} (recalls : session.Recalls config is) {name uid : String}
    (user : is name = .user uid) : (session.learn name uid).Recalls config is := by
  refine ⟨⟨recalls.loaded, recalls.placed⟩, fun other found remembered => ?_⟩
  simp only [uid?, learn] at remembered
  by_cases same : Text.fold other = Text.fold name
  · rw [same, Pairs.lookup_insert_self] at remembered
    rw [fold same, user, Option.some.inj remembered]
  · rw [Pairs.lookup_insert_of_ne same] at remembered
    -- What was remembered before is remembered still, unless all was forgotten.
    split at remembered
    · cases remembered
    · exact recalls.uids other found remembered

end Session

namespace Membership

variable {σ : Type} [Service σ] {config : Config} {plan : Plan} {is : String → Resolved}

/-- A name is resolved to what it stands for, by heart or by a look at its entry. What cannot be
    resolved counts as unknown. -/
theorem run_resolve
    (fold : ∀ {name other : String}, Text.fold name = Text.fold other → is name = is other)
    {world : World σ} (recalls : world.session.Recalls config is) {name : String}
    (reads : ∃ outcome later, (Entry.read name plan.memberAttributes).run world =
        some (outcome, later) ∧
      .ofEntry plan outcome.toOption.join = is name ∧ later.session.Recalls config is) :
    ∃ outcome later, (resolve plan name).run world = some (outcome, later) ∧
      outcome.toOption.getD .unknown = is name ∧ later.session.Recalls config is := by
  -- A name that is remembered need not be read, and one that is read is remembered if it is a user.
  cases known : world.session.uid? name with
  | some uid =>
    refine ⟨.ok (.user uid), world, by simp [resolve, known], ?_, recalls⟩
    exact (recalls.uids name uid known).symm
  | none =>
    obtain ⟨outcome, later, ran, stands, recalls⟩ := reads
    rcases outcome with error | (_ | entry)
    · exact ⟨.error error, later, by simp [resolve, known, ran], stands, recalls⟩
    · exact ⟨.ok .unknown, later, by simp [resolve, known, ran], stands, recalls⟩
    change Resolved.ofEntry plan (some entry) = is name at stands
    by_cases group : entry.hasClass plan.names.posixGroup
    · refine ⟨.ok (.group entry), later, by simp [resolve, known, ran, group], ?_, recalls⟩
      simpa [Resolved.ofEntry, group, Except.toOption] using stands
    · cases first : entry.first? plan.names.uid with
      | none =>
        refine ⟨.ok .unknown, later, by simp [resolve, known, ran, group, first], ?_, recalls⟩
        simpa [Resolved.ofEntry, group, first, Except.toOption] using stands
      | some uid =>
        have user : is name = .user uid := by
          simpa [Resolved.ofEntry, group, first] using stands.symm
        refine ⟨.ok (.user uid), { later with session := later.session.learn name uid }, ?_,
          user.symm, Session.recalls_learn fold recalls user⟩
        simp [resolve, known, ran, group, first, Except.map]

/-- Counts one member, and goes into it if it is a group. -/
def visit (plan : Plan) (into : Entry → Walk → Brittle σ Walk) (walk : Walk) :
    Resolved → Brittle σ Walk
  | .user uid => return walk.add (.user uid)
  | .group group => if plan.policy.nested then into group walk else return walk
  | .unknown => return walk

/-- The step of a walk for a name in the list of a group. -/
def follow (plan : Plan) (into : Entry → Walk → Brittle σ Walk) (walk : Walk) (value : String) :
    Brittle σ Walk := do
  let outcome ← lift (resolve plan (DistinguishedName.withoutUid value)).run
  visit plan into walk (outcome.toOption.getD .unknown)

theorem walkGroup_succ (levels level : Nat) (entry : Entry) (walk : Walk) :
    (walkGroup plan (levels + 1) level entry walk : Brittle σ Walk) = do
      if walk.seen.contains entry.name then return walk
      lift (noteVisit (.scan level entry.name))
      let names ← memberNames plan entry
      let walk ← names.foldlM (follow plan (walkGroup plan levels (level + 1)))
        (walk.meet entry.name)
      return (entry.values plan.names.memberUid).foldl (fun walk uid => walk.add (.user uid))
        walk := by
  rw [walkGroup]
  congr 1
  refine bind_congr fun _ => bind_congr fun names => ?_
  -- The steps for one name are the same, whatever the name stands for.
  congr 2
  funext walk value
  unfold follow
  refine bind_congr fun outcome => ?_
  cases outcome with
  | error error => rfl
  | ok resolved => cases resolved <;> rfl

/-! ### Where a question begins -/

/-- What is done for a question, once the plan is known. -/
def Plan.pursue (plan : Plan) (patience : Nat) : Seed → Venture σ Walk
  | .group name => expandGroup plan name
  | .user name primary => attempt (expandUser plan patience name primary)
  | .netgroup name => attempt (expandNetgroup plan name)

/-- A question begins with the configuration of the host, whatever the session had before and
    whatever the question is. -/
theorem run_expand (opens : Service.Opens σ config) {holds : World σ → Prop}
    (lasting : World.Lasting holds) {world : World σ} (suits : world.session.Suits config)
    (start : holds world) :
    ∃ begun, begun.session.Suits config ∧ holds begun ∧ ∀ patience seed policy,
      (expand patience seed policy).run world =
        ((Plan.ofConfig config policy).pursue patience seed).run begun := by
  obtain ⟨begun, loaded, ready, configured, same, suits⟩ := Session.ensureReady_suits opens suits
  refine ⟨begun, suits, (Session.ensureReady_lasts lasting).ends start _ begun ready, ?_⟩
  intro patience seed policy
  simp only [expand, run_action_bind, run_attempt, ready, Option.map_some, Option.bind_some,
    mapError_ok, run_config, configured, same]
  cases seed <;> rfl

end Membership

end NameService
