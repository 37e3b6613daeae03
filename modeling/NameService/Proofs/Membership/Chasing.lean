import NameService.Directory
import NameService.Proofs.Enumeration.Delivery
import NameService.Proofs.Enumeration.Entries
import NameService.Proofs.Membership.Lasting
import NameService.Proofs.Membership.Nesting

/-!
The groups of a user, when not everything above them can be read. A group above one of them that
cannot be read leaves out its branch and no more, unless the server is lost: the groups themselves
come on the connection to that server, and with it the rest of them is lost.

## Main result

`expand_user`: the groups of a user are all counted, whatever becomes of the questions about the
groups above them, as long as no server is lost; after a loss the expansion fails.
-/

namespace NameService.Membership

open Engine World

namespace Walk

/-- There are as many members as are wanted. -/
def Full (limit : Option Nat) (walk : Walk) : Prop :=
  ∃ wanted, limit = some wanted ∧ wanted ≤ walk.members.length

/-- What a walk has counted stays counted, and it ends early only when it is full. -/
structure Extends (limit : Option Nat) (walk later : Walk) : Prop where
  members : walk.members <+: later.members
  reached : walk.limitReached → later.limitReached
  full : later.limitReached → walk.limitReached ∨ later.Full limit

namespace Extends

variable {limit : Option Nat} {walk later last : Walk}

theorem of_same (members : later.members = walk.members)
    (reached : later.limitReached = walk.limitReached) : Extends limit walk later where
  members := by rw [members]
  reached := by rw [reached]; exact id
  full := by rw [reached]; exact .inl

theorem refl (walk : Walk) : Extends limit walk walk := of_same rfl rfl

theorem trans (first : Extends limit walk later) (second : Extends limit later last) :
    Extends limit walk last where
  members := first.members.trans second.members
  reached := second.reached ∘ first.reached
  full ended := by
    rcases second.full ended with ended | full
    · rcases first.full ended with ended | ⟨wanted, some, enough⟩
      · exact .inl ended
      · exact .inr ⟨wanted, some, Nat.le_trans enough second.members.length_le⟩
    · exact .inr full

end Extends

theorem extends_addGid (limit : Option Nat) (walk : Walk) (gid : Nat) :
    Extends limit walk (walk.addGid limit gid) := by
  unfold addGid
  split
  · exact .refl walk
  split
  · next full =>
    have full : Full limit walk := by simpa [Option.any_eq_true, Full] using full
    exact ⟨List.prefix_rfl, fun _ => rfl, fun _ => .inr full⟩
  · next unknown _ =>
    simp only [add, if_neg unknown]
    exact ⟨List.prefix_append _ _, id, .inl⟩

theorem addGid_counts (limit : Option Nat) (walk : Walk) (gid : Nat) :
    (walk.addGid limit gid).limitReached ∨ .gid gid ∈ (walk.addGid limit gid).members := by
  unfold addGid
  split
  · next known => exact .inr known
  split
  · exact .inl rfl
  · exact .inr (mem_add.mpr (.inr rfl))

theorem extends_meetAll (limit : Option Nat) : ∀ (names : List String) (walk : Walk),
    Extends limit walk (walk.meetAll names).2
  | [], walk => .refl walk
  | name :: names, walk => by
    rw [meetAll]
    split
    · exact extends_meetAll limit names walk
    · have met : Extends limit walk (walk.meet name) := .of_same rfl rfl
      exact met.trans (extends_meetAll limit names (walk.meet name))

end Walk

open Walk

section Expanding

variable {plan : Plan} {primary : Option Nat}

/-- The group of an entry is among the members, if it has a number that is not the primary one. -/
def Plan.Counts (plan : Plan) (primary : Option Nat) (walk : Walk) (entry : Entry) : Prop :=
  ∀ gid, plan.gid? entry = some gid → primary ≠ some gid → .gid gid ∈ walk.members

theorem Plan.Counts.extends {limit : Option Nat} {walk later : Walk} {entry : Entry}
    (counts : plan.Counts primary walk entry) (grown : Extends limit walk later) :
    plan.Counts primary later entry :=
  fun gid usable other => grown.members.subset (counts gid usable other)

theorem chase_extends (limit : Option Nat) (plan : Plan) (entry : Entry) (walk : Walk) :
    Extends limit walk (chase plan entry walk).2 := by
  unfold chase
  split
  · split
    · exact .refl walk
    · exact .of_same rfl rfl
  · have met := extends_meetAll limit (entry.values plan.names.memberOf) walk
    split
    all_goals
      next same =>
      rw [same] at met
      exact met

/-- The group of an entry, counted unless the walk is full. -/
def own (plan : Plan) (primary : Option Nat) (entry : Entry) (walk : Walk) : Walk :=
  match plan.gid? entry with
  | some gid => if primary = some gid then walk else walk.addGid plan.policy.limit gid
  | none => walk

theorem own_extends (plan : Plan) (primary : Option Nat) (entry : Entry) (walk : Walk) :
    Extends plan.policy.limit walk (own plan primary entry walk) := by
  unfold own
  split
  · split
    · exact .refl walk
    · exact extends_addGid _ walk _
  · exact .refl walk

theorem own_counts (plan : Plan) (primary : Option Nat) (entry : Entry) (walk : Walk) :
    (own plan primary entry walk).limitReached ∨
      plan.Counts primary (own plan primary entry walk) entry := by
  unfold own
  split
  · next gid usable =>
    split
    · next same =>
      refine .inr fun other usable' different => absurd ?_ different
      exact same.trans (usable ▸ usable')
    · refine (addGid_counts _ walk gid).imp_right fun there other usable' _ => ?_
      obtain rfl : gid = other := Option.some.inj (usable ▸ usable')
      exact there
  · next useless => exact .inr fun gid usable _ => by simp [useless] at usable

variable {σ : Type}

theorem foldlM_extends {limit : Option Nat} {step : Walk → Entry → Engine σ Walk}
    (steps : ∀ walk entry world, Ends world (step walk entry) fun later _ =>
      Extends limit walk later) (entries : List Entry) (walk : Walk) (world : World σ) :
    Ends world (entries.foldlM step walk) fun later _ => Extends limit walk later := by
  refine .foldlM (fun between entry world grown => ?_) entries (.refl walk)
  exact (steps between entry world).mono fun _ _ rest => grown.trans rest

variable [Service σ]

/-- A group is counted before the groups above it are asked for. -/
theorem collect_extends : ∀ (levels level : Nat) (entry : Entry) (walk : Walk) (world : World σ),
    Ends world (collect plan primary levels level entry walk) fun later _ =>
      Extends plan.policy.limit walk later ∧
        (later.limitReached ∨ plan.Counts primary later entry)
  | levels, level, entry, walk, world => by
    have counted := own_extends plan primary entry walk
    have counts := own_counts plan primary entry walk
    have chased := chase_extends plan.policy.limit plan entry (own plan primary entry walk)
    -- What follows the count can only extend it.
    have goesOn {later : Walk}
        (rest : Extends plan.policy.limit (own plan primary entry walk) later) :
        Extends plan.policy.limit walk later ∧
          (later.limitReached ∨ plan.Counts primary later entry) :=
      ⟨counted.trans rest, counts.imp rest.reached (·.extends rest)⟩
    unfold collect
    split
    · next ended => exact .pure ⟨.refl walk, .inl ended⟩
    cases levels with
    | zero => exact .pure ⟨counted, counts⟩
    | succ levels =>
      dsimp only
      split
      · exact .pure ⟨counted, counts⟩
      split
      · next walk' same =>
        rw [show chase plan entry (own plan primary entry walk) = (none, walk') from same] at chased
        exact .pure (goesOn chased)
      · next lookup walk' same =>
        rw [show chase plan entry (own plan primary entry walk) = (some lookup, walk') from same]
          at chased
        refine Ends.any.bind fun _ _ _ => Ends.any.bind fun result later _ => ?_
        split
        · exact .pure (goesOn chased)
        · next entries =>
          have each (walk : Walk) (entry : Entry) (world : World σ) :
              Ends world (collect plan primary levels (level + 1) entry walk) fun later _ =>
                Extends plan.policy.limit walk later :=
            (collect_extends levels _ entry walk world).mono fun _ _ reached => reached.1
          exact (foldlM_extends each entries walk' later).mono fun _ _ rest =>
            goesOn (chased.trans rest)

section Counting

variable {reply : Search → Reply} {script : Script σ reply} {lookup : Lookup} {loaded : Loaded}
  {count : Nat}

/-- How an expansion ends when it has counted so far what is in `walk`, `entries` are still to come,
    and `count` searches have lost their servers. -/
def Outcome (plan : Plan) (primary : Option Nat) (walk : Walk) (entries : List Entry)
    (count : Nat) (result : Except Error Walk) (losses : Nat) : Prop :=
  if count = losses then
    ∃ later, result = .ok later ∧ walk.members <+: later.members ∧
      (later.limitReached ∧ later.Full plan.policy.limit ∨
        ∀ entry ∈ entries, plan.Counts primary later entry)
  else result = .error Enumeration.interrupted ∨
    ∃ later, result = .ok later ∧ later.limitReached ∧ later.Full plan.policy.limit

namespace Outcome

variable {walk later : Walk} {entry : Entry} {entries : List Entry} {result : Except Error Walk}
  {losses : Nat}

theorem of_full (kept : walk.members <+: later.members) (reached : later.limitReached)
    (full : later.Full plan.policy.limit) :
    Outcome plan primary walk entries count (.ok later) losses := by
  unfold Outcome
  split
  · exact ⟨later, rfl, kept, .inl ⟨reached, full⟩⟩
  · exact .inr ⟨later, rfl, reached, full⟩

theorem of_loss (lost : count < losses) :
    Outcome plan primary walk entries count (.error Enumeration.interrupted) losses := by
  rw [Outcome, if_neg (Nat.ne_of_lt lost)]
  exact .inl rfl

theorem cons (kept : walk.members <+: later.members) (counts : plan.Counts primary later entry)
    (outcome : Outcome plan primary later entries count result losses) :
    Outcome plan primary walk (entry :: entries) count result losses := by
  unfold Outcome at outcome ⊢
  split
  · next same =>
    rw [if_pos same] at outcome
    obtain ⟨last, ended, kept', counted⟩ := outcome
    refine ⟨last, ended, kept.trans kept', counted.imp_right fun rest => ?_⟩
    rw [List.forall_mem_cons]
    exact ⟨fun gid usable other => kept'.subset (counts gid usable other), rest⟩
  · next lost =>
    rwa [if_neg lost] at outcome

end Outcome

variable (spares : Service.Spares σ loaded) (apart : script.Apart)
include spares apart

/-- The entries of an enumeration are counted one after the other. -/
theorem collectAll_counts (plan : Plan) (primary : Option Nat) {patience : Nat} :
    ∀ (rounds : Nat) {world : World σ} {e : Enumeration} {items : List (Item Entry)} {steps : Nat}
      {walk : Walk}, world.Calm → world.losses = count → (e.entry.isSome → e.position = .start) →
      Enumeration.Stage script lookup loaded Enumeration.whole world e items steps →
      walk.limitReached = false → steps ≤ patience → items.length < rounds →
      ∃ result e' later,
        collectAll plan primary patience rounds e walk world = some ((result, e'), later) ∧
          Outcome plan primary walk (items.map Item.record) count result later.losses
  | 0, _, _, _, _, _, _, _, _, _, _, _, enough => absurd enough (Nat.not_lt_zero _)
  | rounds + 1, world, e, items, steps, walk, calm, unlost, first, stage, unfilled, patient, enough
    => by
    obtain ⟨found, e', later, ran, reached⟩ :=
      Enumeration.nextEntry_advances spares patience calm unlost first stage patient
    cases found with
    | none =>
      obtain ⟨rfl, unlost'⟩ := reached
      refine ⟨.ok walk, e', later, by simp [collectAll, ran], ?_⟩
      simp [Outcome, unlost']
    | some entry =>
      obtain ⟨entries, fewer, same, less, riding⟩ := reached
      have carried : World.Carried
          (Enumeration.Riding script lookup loaded count e' entries fewer) _ _ :=
        Enumeration.Riding.carried spares apart entries fewer
      obtain ⟨walk', ended, collected, kept⟩ :=
        collect_lasts (Lookup.entries_carries carried)
          (fun visit world => Or.imp (Enumeration.Riding.visit visit world)
            (Enumeration.Stranded.visit visit world))
          plan primary plan.policy.maxDepth 0 entry walk later
      obtain ⟨grown, counted⟩ := collect_extends _ 0 entry walk later walk' ended collected
      have next : collectAll plan primary patience (rounds + 1) e walk world =
          if walk'.limitReached then some ((.ok walk', e'), ended)
          else collectAll plan primary patience rounds e' walk' ended := by
        simp only [collectAll, run_bind, ran, Option.bind_some, collected]
        split <;> rfl
      rw [next, same]
      by_cases filled : walk'.limitReached
      · have full := (grown.full filled).resolve_left (by simp [unfilled])
        exact ⟨.ok walk', e', ended, by simp [filled], .of_full grown.members filled full⟩
      · rw [if_neg filled]
        have counts := counted.resolve_left filled
        have size : items.length = entries.length + 1 := by
          rw [← List.length_map, same, List.length_cons]
        rcases kept (.inl riding) with riding' | stranded
        · obtain ⟨items', rfl, stage'⟩ := riding'.stage
          have patient' : fewer ≤ patience := by omega
          have enough' : items'.length < rounds := by
            rw [List.length_map] at size
            omega
          obtain ⟨result, e'', last, ran', outcome⟩ :=
            collectAll_counts plan primary rounds riding'.calm riding'.unlost
              (by simp [riding'.free]) stage' (Bool.eq_false_iff.mpr filled) patient' enough'
          exact ⟨result, e'', last, ran', outcome.cons grown.members counts⟩
        · -- The server is lost, and whoever asks for the next entry hears of it.
          obtain ⟨id, pending⟩ := riding.pending
          obtain ⟨rounds, rfl⟩ : ∃ rest, rounds = rest + 1 := ⟨rounds - 1, by omega⟩
          obtain ⟨patience, rfl⟩ : ∃ rest, patience = rest + 1 := ⟨patience - 1, by omega⟩
          obtain ⟨e'', last, ran', lost⟩ :=
            Enumeration.nextEntry_stranded spares riding.free pending stranded patience
          refine ⟨.error Enumeration.interrupted, e'', last, ?_, .of_loss lost⟩
          simp [collectAll, ran']

/-- The groups of a user are all counted as long as no server is lost, whatever else becomes of the
    questions about the groups above them. After a loss no more of his groups come, and the
    expansion fails unless it has been full before. -/
theorem expand_user {world ready asked begun : World σ} {policy : Policy} {user : String}
    {first : Loaded} {e : Enumeration} {parts : List (List (List (Option Entry)))}
    (readied : (Session.ensureReady : Action σ Unit).run world = some (.ok (), ready))
    (configured : ready.session.loaded = some first)
    (expanded : first.config.ignoresUser user = false)
    (questioned : (question (.ofConfig first.config policy) user).run ready =
      some (.ok lookup, asked))
    (started : Enumeration.start {} lookup asked = some ((.ok (), e), begun))
    (kept : begun.session.loaded = some loaded) (calm : begun.Calm)
    (answers : lookup.Answers loaded.config reply parts) :
    ∃ enough, ∀ patience, enough ≤ patience → ∃ result later,
      (expand patience (.user user primary) policy).run world = some (result, later) ∧
        if begun.losses = later.losses then
          ∃ walk, result = .ok walk ∧ (walk.limitReached ∧ walk.Full policy.limit ∨
            ∀ entry ∈ parts.flatten.flatten.reduceOption,
              (Plan.ofConfig first.config policy).Counts primary walk entry)
        else result = .error (.error Enumeration.interrupted) ∨
          ∃ walk, result = .ok walk ∧ walk.limitReached ∧ walk.Full policy.limit := by
  -- There has to be patience for the longest wait between two entries and for all entries.
  obtain ⟨steps, stage⟩ :=
    Enumeration.start_stage script Enumeration.whole started kept answers
  obtain ⟨id, -, made⟩ := Enumeration.start_succeeds started
  have fresh : e.entry.isSome → e.position = .start := by simp [made]
  refine ⟨max steps ((itemsOn Enumeration.whole parts.flatten).length + 1),
    fun patience enough => ?_⟩
  have patient : steps ≤ patience := by omega
  have enough' : (itemsOn Enumeration.whole parts.flatten).length < patience := by omega
  obtain ⟨result, e', ended, ran, outcome⟩ :=
    collectAll_counts spares apart (.ofConfig first.config policy) primary patience calm rfl fresh
      stage (rfl : ({} : Walk).limitReached = false) patient enough'
  -- To end the enumeration loses nothing more, so losses may be counted at the end of the walk.
  obtain ⟨stopped, later, stops, unlost⟩ :=
    Enumeration.stop_lasts (losses_lasting ended.losses).toTended e' ended
  refine ⟨result.mapError .error, later, ?_, ?_⟩
  · have expanded' : (Plan.ofConfig first.config policy).config.ignoresUser user = false :=
      expanded
    simp [expand, readied, configured, expandUser, expanded', questioned,
      collectAnswer, started, ran, stops]
  · rw [Enumeration.map_record_entries] at outcome
    rw [unlost rfl]
    unfold Outcome at outcome
    split
    · next same =>
      rw [if_pos same] at outcome
      obtain ⟨walk, rfl, -, counted⟩ := outcome
      exact ⟨walk, rfl, counted⟩
    · next lost =>
      rw [if_neg lost] at outcome
      rcases outcome with rfl | ⟨walk, rfl, full⟩
      · exact .inl rfl
      · exact .inr ⟨walk, rfl, full⟩

end Counting

end Expanding

/-! ## A small directory -/

namespace Pair

def config : Config where
  uris := ["ldap://one", "ldap://two"]
  base := "dc=small"
  flags := { nestedGroups := true }

def ann : Entry := ⟨"uid=ann,dc=small", [("uid", ["ann"])]⟩

def web : Entry := ⟨"cn=web,dc=small", [("gidNumber", ["10"])]⟩

def mail : Entry := ⟨"cn=mail,dc=small", [("gidNumber", ["20"])]⟩

def reply (search : Search) : Reply :=
  let entries :=
    if search.filter = "(&(objectClass=posixAccount)(uid=ann))" then [ann]
    else if search.filter =
        "(&(objectClass=posixGroup)(|(memberUid=ann)(uniqueMember=uid=ann,dc=small)))" then
      [web, mail]
    else []
  ⟨entries.map some, 0, "", none⟩

abbrev plan : Plan := .ofConfig config {}

/-- The question about what is above the first group fails. -/
def failing (error : Error) (calls : Nat) : Call → Option Error
  | .search _ _ => if calls = 6 then some error else none
  | _ => none

abbrev Outside (error : Error) := Frail (Host config reply) (failing error)

def world (error : Error) : World (Outside error) := { outside := ⟨{}, 0⟩ }

def script (error : Error) : Script (Outside error) reply :=
  Frail.script Host.script (fun _ _ _ => rfl) fun _ _ _ => rfl

theorem apart (error : Error) : (script error).Apart :=
  Frail.script_apart _ _ Host.script_apart

theorem answers : (plan.groupsOfUser "ann" (some ann.name)).Answers config reply
    [[[some web, some mail]]] := by
  have targets : (plan.groupsOfUser "ann" (some ann.name)).targets config =
      [⟨"dc=small", .subtree, none⟩] := by decide +kernel
  unfold Lookup.Answers
  rw [targets]
  refine .cons ?_ .nil
  rintro search ⟨⟩
  exact .last (Or.inl rfl) rfl

abbrev groups : Lookup := plan.groupsOfUser "ann" (some ann.name)

/-- How far the expansion gets before the first question about a group. -/
structure Begun (error : Error) (ready asked begun : World (Outside error)) (e : Enumeration) :
    Prop where
  readied : (Session.ensureReady : Action _ Unit).run (world error) = some (.ok (), ready)
  configured : ready.session.loaded = some ⟨config, none⟩
  questioned : (question plan "ann").run ready = some (.ok groups, asked)
  started : Enumeration.start {} groups asked = some ((.ok (), e), begun)
  kept : begun.session.loaded = some ⟨config, none⟩
  calm : begun.Calm

theorem begins {error : Error}
    (ran : ((Session.ensureReady : Action (Outside error) Unit).run (world error)).bind
      (fun (result, ready) => ((question plan "ann").run ready).bind fun (lookup, asked) =>
        (Enumeration.start {} groups asked).map fun ((started, _), begun) =>
          ((ready.session.loaded, begun.session.loaded), lookup.toOption,
            result.isOk && started.isOk && begun.Calm)) =
      some ((some ⟨config, none⟩, some ⟨config, none⟩), some groups, true)) :
    ∃ ready asked begun e, Begun error ready asked begun e := by
  obtain ⟨⟨result, ready⟩, readied, ran⟩ := Option.bind_eq_some_iff.mp ran
  obtain ⟨⟨lookup, asked⟩, questioned, ran⟩ := Option.bind_eq_some_iff.mp ran
  obtain ⟨⟨⟨outcome, e⟩, begun⟩, started, same⟩ := Option.map_eq_some_iff.mp ran
  simp only [Prod.mk.injEq, Bool.and_eq_true, decide_eq_true_eq] at same
  obtain ⟨⟨configured, kept⟩, told, ⟨succeeded, accepted⟩, calm⟩ := same
  match result, lookup, outcome with
  | .ok (), .ok _, .ok () =>
    cases told
    exact ⟨ready, asked, begun, e, readied, configured, questioned, started, kept, calm⟩
  | .error _, _, _ => cases succeeded
  | .ok (), .error _, _ => cases told
  | .ok (), .ok _, .error _ => cases accepted

end Pair

/-- One of the questions about the groups above takes too long, and both groups are counted. -/
theorem expand_user_pair :
    let error : Error := .directory 3 "time limit exceeded"
    ∃ ready asked begun e, Pair.Begun error ready asked begun e ∧
      ((expand 9 (.user "ann" none) {}).run (Pair.world error)).map
        (fun out => (out.1.toOption.map Walk.members, out.2.losses)) =
          some (some [.gid 10, .gid 20], 0) ∧
      ∃ enough, ∀ patience, enough ≤ patience → ∃ result later,
        (expand patience (.user "ann" none) {}).run (Pair.world error) = some (result, later) ∧
          if begun.losses = later.losses then
            ∃ walk, result = .ok walk ∧ (walk.limitReached ∧ walk.Full none ∨
              ∀ entry ∈ [Pair.web, Pair.mail], Pair.plan.Counts none walk entry)
          else result = .error (.error Enumeration.interrupted) ∨
            ∃ walk, result = .ok walk ∧ walk.limitReached ∧ walk.Full none := by
  intro error
  obtain ⟨ready, asked, begun, e, reached⟩ :
      ∃ ready asked begun e, Pair.Begun error ready asked begun e := Pair.begins (by decide +kernel)
  have still : Service.Still (Pair.Outside error) := Frail.still Host.still
  exact ⟨ready, asked, begun, e, reached, by decide +kernel,
    expand_user (still.spares _) (Pair.apart error) reached.readied reached.configured rfl
      reached.questioned reached.started reached.kept reached.calm Pair.answers⟩

/-- The server is lost at the first question about the groups above. The second group is on it, and
    none of the two is given, although there is another server. -/
theorem expand_user_loss :
    let error : Error := .timeout "slow"
    (∃ ready asked begun e, Pair.Begun error ready asked begun e) ∧
      Pair.groups.Answers Pair.config Pair.reply [[[some Pair.web, some Pair.mail]]] ∧
      ((expand 9 (.user "ann" none) {}).run (Pair.world error)).map Prod.fst =
        some (.error (.error Enumeration.interrupted)) :=
  ⟨Pair.begins (by decide +kernel), Pair.answers, by decide +kernel⟩

end NameService.Membership
