import NameService.Proofs.Enumeration.Ending
import NameService.Proofs.Membership.Deeds
import NameService.Proofs.Membership.Visits

/-!
Expansions that come to their end. A walk through groups goes no deeper than the policy allows, and
the names that it has met keep it from going around in circles; nothing else bounds it, since a
directory may show other groups at every question. Only the first groups of a user come message by
message, so this is where an answer without an end would be waited for.

## Main results

- `expand_settles`: with enough patience every expansion ends.
- `expand_visits`: it does so after visits that are in order.
-/

namespace NameService

namespace Engine

variable {σ α β : Type}

/-- With enough patience the action comes to an end, which more patience does not change. -/
def Settles (world : World σ) (m : Nat → Engine σ α) : Prop :=
  ∃ enough out, ∀ patience, enough ≤ patience → m patience world = some out

namespace Settles

variable {world : World σ} {m : Nat → Engine σ α}

/-- What ends anyway needs no patience. -/
theorem of_halts {m : Engine σ α} (halts : Halts m) : Settles world fun _ => m := by
  obtain ⟨a, later, ran⟩ := halts world
  exact ⟨0, (a, later), fun _ _ => ran⟩

theorem bind {f : Nat → α → Engine σ β} (first : Settles world m)
    (second : ∀ patience a later, m patience world = some (a, later) →
      Settles later fun patience => f patience a) :
    Settles world fun patience => m patience >>= f patience := by
  obtain ⟨enough, ⟨a, later⟩, began⟩ := first
  obtain ⟨enough', out, ended⟩ := second enough a later (began enough (Nat.le_refl _))
  refine ⟨max enough enough', out, fun patience patient => ?_⟩
  have began := began patience (le_of_max_le_left patient)
  have ended := ended patience (le_of_max_le_right patient)
  simp only [run_bind, began, Option.bind_some, ended]

theorem action_bind {ε : Type} {m : Nat → Fallible ε σ α} {f : Nat → α → Fallible ε σ β}
    (first : Settles world fun patience => (m patience).run)
    (second : ∀ patience a later, (m patience).run world = some (.ok a, later) →
      Settles later fun patience => (f patience a).run) :
    Settles world fun patience => (m patience >>= f patience).run := by
  refine first.bind fun patience result later began => ?_
  cases result with
  | ok a => exact second patience a later began
  | error error => exact ⟨0, (.error error, later), fun _ _ => rfl⟩

theorem attempt {m : Nat → Action σ α} (settles : Settles world fun patience => (m patience).run) :
    Settles world fun patience => (attempt (m patience)).run := by
  obtain ⟨enough, ⟨result, later⟩, ended⟩ := settles
  refine ⟨enough, (result.mapError .error, later), fun patience patient => ?_⟩
  simp only [run_attempt, ended patience patient, Option.map_some]

end Settles

end Engine

namespace Membership

open Engine World Service Enumeration

variable {σ : Type} [Service σ]

/-- The entries of an enumeration are counted until there are no more. The questions about the
    groups above each of them are asked aside. -/
theorem collectAll_settles (plan : Plan) (primary : Option Nat) {e : Enumeration} {world : World σ}
    (dries : Dries e world) (coherent : world.Coherent) (walk : Walk) :
    ∃ enough out, ∀ patience rounds, enough ≤ patience → enough ≤ rounds →
      collectAll plan primary patience rounds e walk world = some out := by
  induction dries generalizing walk with
  | @intro e e' world later result enough ran _ rest =>
    have round {patience rounds : Nat} (patient : enough + 1 ≤ patience)
        (more : enough + 1 ≤ rounds) : ∃ left, rounds = left + 1 ∧
          e.nextEntry patience world = some ((result, e'), later) :=
      ⟨rounds - 1, by omega, ran patience (by omega)⟩
    match result with
    | .error error =>
      refine ⟨enough + 1, ((.error error, e'), later), fun patience rounds patient more => ?_⟩
      obtain ⟨left, rfl, taken⟩ := round patient more
      simp only [collectAll, run_bind, taken, Option.bind_some, run_pure]
    | .ok none =>
      refine ⟨enough + 1, ((.ok walk, e'), later), fun patience rounds patient more => ?_⟩
      obtain ⟨left, rfl, taken⟩ := round patient more
      simp only [collectAll, run_bind, taken, Option.bind_some, run_pure]
    | .ok (some entry) =>
      have coherent : later.Coherent :=
        nextEntry_endures coherent_upheld.enduring.fetches enough e world coherent _ later
          (ran enough (Nat.le_refl _))
      have answering := (Asides.upkept later).answering
      obtain ⟨walk, last, counted, aside⟩ := collect_lasts answering.asks answering.visits
        plan primary plan.policy.maxDepth 0 entry walk later
      obtain ⟨asides, coherent⟩ := aside ⟨.refl, coherent⟩
      by_cases full : walk.limitReached
      -- No more entries are wanted, whether or not there are any.
      · refine ⟨enough + 1, ((.ok walk, e'), last), fun patience rounds patient more => ?_⟩
        obtain ⟨left, rfl, taken⟩ := round patient more
        simp only [collectAll, run_bind, taken, Option.bind_some, counted, full, if_true, run_pure]
      · obtain ⟨enough', out, goesOn⟩ := rest entry rfl last asides coherent walk
        refine ⟨max enough enough' + 1, out, fun patience rounds patient more => ?_⟩
        have enoughPatience : enough + 1 ≤ patience := by omega
        have enoughRounds : enough + 1 ≤ rounds := by omega
        obtain ⟨left, rfl, taken⟩ := round enoughPatience enoughRounds
        simp only [collectAll, run_bind, taken, Option.bind_some, counted, full]
        exact goesOn patience left (by omega) (by omega)

theorem collectAnswer_settles (finitary : Finitary σ) (plan : Plan) (primary : Option Nat)
    (lookup : Lookup) {world : World σ} (coherent : world.Coherent) :
    Settles world fun patience => collectAnswer plan primary patience lookup := by
  refine (Settles.of_halts (start_halts {} lookup)).bind fun _ out later started => ?_
  have kept := start_upholds coherent_upheld {} lookup world coherent out later started
  have dries := start_dries finitary {} lookup coherent out later started
  obtain ⟨result, e⟩ := out
  cases result with
  | error error => cases error <;> exact .of_halts fun world => ⟨_, world, rfl⟩
  | ok =>
    obtain ⟨enough, out, ran⟩ := collectAll_settles plan primary (dries rfl) kept {}
    exact ⟨enough, out, fun patience patient => ran patience patience patient patient⟩

theorem expandUser_settles (finitary : Finitary σ) (plan : Plan) (user : String)
    (primary : Option Nat) {world : World σ} (coherent : world.Coherent) :
    Settles world fun patience => (expandUser plan patience user primary).run := by
  simp only [expandUser_eq]
  split
  · exact .of_halts fun world => ⟨_, world, rfl⟩
  have asks := question_lasts (coherent_upheld (σ := σ)).upkept.answering.asks plan user
  refine (Settles.of_halts asks.halts).action_bind fun _ lookup asked ran => ?_
  have coherent := asks.ends coherent _ asked ran
  refine (collectAnswer_settles finitary plan primary lookup coherent).bind ?_
  intro _ out later _
  exact (Settles.of_halts out.2.stop_halts).bind fun _ stopped last _ =>
    .of_halts fun world => ⟨out.1, world, rfl⟩

/-- With enough patience every expansion ends. -/
theorem expand_settles (finitary : Finitary σ) (seed : Seed) (policy : Policy) (world : World σ) :
    Settles world fun patience => (expand patience seed policy).run := by
  refine (Settles.of_halts Session.ensureReady_halts).attempt.action_bind fun _ _ ready ran => ?_
  have ran := (run_attempt_eq_ok_iff world).mp ran
  have coherent : ready.Coherent :=
    fun _ => Session.ensureReady_configured world _ ready ran rfl
  have reads : Lasts World.Coherent (config : Action σ Config).run := .config
  refine (Settles.of_halts reads.halts).attempt.action_bind fun _ config later ran => ?_
  have coherent := reads.ends coherent _ later ((run_attempt_eq_ok_iff ready).mp ran)
  have answering : World.Answering (World.Coherent (σ := σ)) := coherent_upheld.upkept.answering
  cases seed with
  | group name => exact .of_halts (expandGroup_lasts answering _ name).halts
  | user name primary => exact (expandUser_settles finitary _ name primary coherent).attempt
  | netgroup name => exact .of_halts (expandNetgroup_lasts answering _ name).attempt.halts

/-- Every expansion ends, whatever a directory shows, if only the answers that come message by
    message do. No name is visited twice on the way, and none beyond the levels of the policy. -/
theorem expand_visits (finitary : Finitary σ) (seed : Seed) (policy : Policy) (world : World σ) :
    (∃ enough result later, ∀ patience, enough ≤ patience →
      (expand patience seed policy).run world = some (result, later)) ∧
    ∀ patience result later, (expand patience seed policy).run world = some (result, later) →
      ∃ visits, later.visits = visits ++ world.visits ∧ InOrder policy.maxDepth visits := by
  constructor
  · obtain ⟨enough, ⟨result, later⟩, ran⟩ := expand_settles finitary seed policy world
    exact ⟨enough, result, later, ran⟩
  · intro patience result later ran
    exact expand_inOrder patience seed policy world result later ran

namespace Stairs

def config : Config where
  uris := ["ldap://one"]
  base := "dc=stairs"
  flags := { nestedGroups := true }

/-- Above every group there is one of a longer name. -/
def reply (search : Search) : Reply :=
  let asked := (search.filter.toList.reverse.dropWhile (· = ')')).takeWhile (· ≠ '=')
  ⟨[some ⟨String.ofList ('g' :: asked.reverse), []⟩], 0, "", none⟩

end Stairs

/-- The groups above a user have no end, but the levels of the policy have. -/
theorem expand_visits_stairs :
    let world : World (Host Stairs.config Stairs.reply) := { outside := {} }
    let policy : Policy := { maxDepth := 2 }
    Service.Finitary (Host Stairs.config Stairs.reply) ∧
      (∃ enough result later, ∀ patience, enough ≤ patience →
        (expand patience (.user "ann" none) policy).run world = some (result, later)) ∧
      ∃ result later, (expand 9 (.user "ann" none) policy).run world = some (result, later) ∧
        InOrder policy.maxDepth later.visits ∧
        later.visits = [.chase 2 ["gggann"], .chase 1 ["ggann"]] := by
  intro world policy
  have finitary : Service.Finitary (Host Stairs.config Stairs.reply) := Host.finitary fun _ => rfl
  obtain ⟨ends, visited⟩ := expand_visits finitary (.user "ann" none) policy world
  have shown : ((expand 9 (.user "ann" none) policy).run world).map (fun out => out.2.visits) =
      some [.chase 2 ["gggann"], .chase 1 ["ggann"]] := by decide +kernel
  obtain ⟨⟨result, later⟩, ran, same⟩ := Option.map_eq_some_iff.mp shown
  obtain ⟨visits, added, ordered⟩ := visited 9 result later ran
  -- There were no visits before.
  obtain rfl : later.visits = visits := added.trans (List.append_nil visits)
  exact ⟨finitary, ends, result, later, ran, ordered, same⟩

end Membership

end NameService
