import NameService.Proofs.Failover.Losses

/-!
Sessions that have nothing to fear. A host may take every connection, and it may be placid: nothing
that a session sees of it changes while it answers. On such a host every session comes to a
connection that none of the hazards has come to, and keeps it.

## Main results

- `Session.ensureReady_calms`: after a look for hazards a session is calm.
- `Session.establish_calm`: a calm session comes to a connection and is calm.
- `Service.Placid.spares`: queries bring no hazard.
-/

namespace NameService

open Engine

/-- No call fails that has to do with connections. -/
structure Service.Opens (σ : Type) [Service σ] (config : Config) : Prop where
  located : config.uris ≠ []
  loads : ∀ outside : σ, (Service.answer .load outside).1 = .ok config
  connects : ∀ (options : ConnectOptions) (outside : σ),
    (Service.answer (.connect options) outside).1 = .ok ()
  binds : ∀ (connection : Connection) (name password : String) (outside : σ),
    (Service.answer (.bind connection name password) outside).1 = .ok ()

/-- Nothing happens to a connection while calls are answered. Time may pass, unless connections may
    be idle only for so long. -/
structure Service.Placid (σ : Type) [Service σ] (config : Config) : Prop extends Steady σ where
  socket : ∀ (call : Call) (connection : Connection) (outside : σ),
    Service.socket connection (answer call outside).2 = Service.socket connection outside
  opened : ∀ (connection : Connection) (outside : σ), Service.isClosed connection outside = false
  timely : config.idleTimeLimit = none ∨
    ∀ (call : Call) (outside : σ), clock (answer call outside).2 = clock outside

/-- A session with this configuration, or with none so far. -/
structure Session.Suits (config : Config) (session : Session) : Prop where
  loaded : ∀ loaded, session.loaded = some loaded → loaded.config = config
  placed : session.Placed

theorem Session.suits_new (config : Config) : Suits config {} := by
  constructor
  · intro loaded configured
    cases configured
  · intro loaded configured
    cases configured

variable {σ : Type} [Service σ] {config : Config}

namespace Session

section Opening

variable (opens : Service.Opens σ config)
include opens

theorem suits_lasting : Lasting σ (Suits config) where
  adopt session loaded outside answered located suits := by
    refine ⟨?_, placed_lasting.adopt session loaded outside answered located suits.placed⟩
    rintro _ ⟨⟩
    rw [opens.loads outside] at answered
    exact (Except.ok.inj answered).symm
  hold _ _ suits := ⟨suits.loaded, suits.placed⟩
  dropLink _ suits := ⟨suits.loaded, suits.placed⟩
  clearFork _ suits := ⟨suits.loaded, suits.placed⟩
  touch _ _ suits := ⟨suits.loaded, suits.placed⟩
  advance session suits := ⟨suits.loaded, placed_lasting (σ := σ).advance session suits.placed⟩

theorem run_load_opens (world : World σ) : (load : Action σ Unit).run world =
    some (.ok (), { world.after .load with
      session := world.session.adopt ⟨config, Service.modified world.outside⟩ }) := by
  have answered : world.answer .load = .ok config := opens.loads world.outside
  have located : config.uris.isEmpty = false := by simpa using opens.located
  simp only [run_load, answered, located]
  rfl

theorem run_loadFirst_opens (world : World σ) :
    ∃ later, (loadFirst : Action σ Unit).run world = some (.ok (), later) := by
  cases configured : world.session.loaded with
  | none => exact ⟨_, (run_loadFirst_missing configured).trans (run_load_opens opens world)⟩
  | some loaded => exact ⟨world, run_loadFirst (by simp [configured])⟩

/-- The configuration is read again, or it is current. -/
theorem run_refresh_opens (world : World σ) : (refresh : Action σ Unit).run world =
    if world.session.loaded.bind Loaded.modified = Service.modified world.outside then
      some (.ok (), world)
    else some (.ok (), { (world.drop .unbind).after .load with
      session := (world.drop .unbind).session.adopt
        ⟨config, Service.modified (world.drop .unbind).outside⟩ }) := by
  by_cases current : world.session.loaded.bind Loaded.modified = Service.modified world.outside
  · simp [refresh, current]
  · simp [refresh, current, run_load_opens opens]

theorem ensureReady_opens (world : World σ) :
    ∃ later, (ensureReady : Action σ Unit).run world = some (.ok (), later) := by
  obtain ⟨begun, first⟩ := run_loadFirst_opens opens world
  obtain ⟨_, looked, inspected, -⟩ := inspect_lasts World.lasting_true.toTended begun
  obtain ⟨later, refreshed⟩ :
      ∃ later, (refresh : Action σ Unit).run looked = some (.ok (), later) := by
    rw [run_refresh_opens opens]
    split <;> exact ⟨_, rfl⟩
  exact ⟨later, by simp [ensureReady, first, inspected, refreshed]⟩

/-- A request begins with the configuration of the host. -/
theorem ensureReady_suits {world : World σ} (suits : world.session.Suits config) :
    ∃ begun loaded, (ensureReady : Action σ Unit).run world = some (.ok (), begun) ∧
      begun.session.loaded = some loaded ∧ loaded.config = config ∧
      begun.session.Suits config := by
  obtain ⟨begun, ready⟩ := ensureReady_opens opens world
  have configured := ensureReady_configured world _ begun ready rfl
  obtain ⟨loaded, configured⟩ := Option.isSome_iff_exists.mp configured
  have kept := (ensureReady_lasts (suits_lasting opens).world).ends suits _ begun ready
  exact ⟨begun, loaded, ready, configured, kept.loaded loaded configured, kept⟩

theorem run_establish_opens {world : World σ} {loaded : Loaded}
    (configured : world.session.loaded = some loaded) (placed : world.session.Placed)
    (free : world.session.link = none) : ∃ options, (establish : Action σ Unit).run world =
      some (.ok (), (world.connected options).welcomed loaded.config) := by
  have ran := run_establish free configured
  have inside := placed loaded configured
  have answers (options : ConnectOptions) : world.answer (.connect options) = .ok () :=
    opens.connects options world.outside
  have accepts (made : World σ) : made.answer (made.greeting loaded.config) = .ok () :=
    opens.binds _ _ _ made.outside
  simp only [List.getElem?_eq_getElem inside, answers, accepts] at ran
  exact ⟨_, ran⟩

theorem establish_opens {world : World σ} {loaded : Loaded}
    (configured : world.session.loaded = some loaded) (placed : world.session.Placed) :
    ∃ later, (establish : Action σ Unit).run world = some (.ok (), later) ∧
      later.session.link.isSome ∧ later.session.loaded = some loaded := by
  cases held : world.session.link with
  | some link =>
    exact ⟨world, run_establish_held (by simp [held]), by simp [held], configured⟩
  | none =>
    obtain ⟨options, ran⟩ := run_establish_opens opens configured placed held
    exact ⟨_, ran, rfl, configured⟩

end Opening

end Session

/-! ### Calm -/

/-- A connection that none of the hazards has come to, but that may have been idle. -/
structure World.Spared (world : World σ) (link : Link) : Prop where
  sound : link.isStolen world.outside = false
  opened : Service.isClosed link.connection world.outside = false
  own : link.owner = some (Service.processId world.outside)
  familiar : link.isForOther world.outside = false

theorem World.calm_of_spared {world : World σ} (unforked : world.session.forked = false)
    (unchanged : world.session.loaded.bind Loaded.modified = Service.modified world.outside)
    (spared : ∀ link, world.session.held = some link → world.Spared link)
    (busy : ∀ link, world.session.link = some link →
      link.isIdle world.session.idleLimit world.outside = false) : world.Calm where
  unforked := unforked
  unchanged := unchanged
  sound link held := (spared link held).sound
  opened link held := (spared link held).opened
  own link held := (spared link held).own
  familiar link held := (spared link held).familiar
  busy := busy

theorem World.calm_of_bare {world : World σ} (unforked : world.session.forked = false)
    (unchanged : world.session.loaded.bind Loaded.modified = Service.modified world.outside)
    (bare : world.session.held = none) : world.Calm :=
  calm_of_spared unforked unchanged (by simp [bare]) (by simp [Session.link_of_bare bare])

namespace Session

/-- No connection is kept that is stolen, closed, inherited or for another user. -/
theorem dropUnfit_spares (world : World σ) : Ends world dropUnfit fun _ later =>
    ∀ link, later.session.held = some link → later.Spared link := by
  cases held : world.session.held with
  | none => exact .of_run (run_dropUnfit_bare held) (by simp [held])
  | some link =>
    refine .of_run (run_dropUnfit held) ?_
    split
    · simp
    split
    · simp
    · next sound familiar =>
      simp only [not_or, Bool.not_eq_true] at sound familiar
      have own := familiar.1
      simp only [isInherited, Bool.or_eq_false_iff, bne_eq_false_iff_eq] at own
      rw [held]
      rintro _ ⟨⟩
      exact ⟨sound.1, sound.2, own.2, familiar.2⟩

/-- A look for hazards leaves no connection to which one has come. -/
theorem inspect_spares (world : World σ) : Ends world inspect fun _ later =>
    later.session.forked = false ∧
    (∀ link, later.session.held = some link → later.Spared link) ∧
    ∀ link, later.session.link = some link →
      link.isIdle later.session.idleLimit later.outside = false := by
  refine .bind_run (run_noteLook world) ?_
  refine (dropUnfit_spares _).bind fun _ world spared => .bind_run (run_update world _) ?_
  -- The mark of a fork is gone before the last look, which is for time that has passed.
  generalize same : { world with session := world.session.clearFork } = cleared
  have unforked : cleared.session.forked = false := by rw [← same]; rfl
  have spared : ∀ link, cleared.session.held = some link → cleared.Spared link := by
    subst same
    exact fun link held => ⟨(spared link held).sound, (spared link held).opened,
      (spared link held).own, (spared link held).familiar⟩
  cases held : cleared.session.link with
  | none => exact .of_run (run_closeIdle_free held) ⟨unforked, spared, by simp [held]⟩
  | some link =>
    refine .of_run (run_closeIdle held) ?_
    split
    · exact ⟨by simpa using unforked, by simp, by simp⟩
    · next busy =>
      refine ⟨unforked, spared, ?_⟩
      rw [held]
      rintro _ ⟨⟩
      simpa using busy

/-- After a look for hazards a session is calm. -/
theorem ensureReady_calms (opens : Service.Opens σ config) (steady : Service.Steady σ)
    (world : World σ) :
    Ends world (ensureReady : Action σ Unit).run fun _ later => later.Calm := by
  obtain ⟨begun, first⟩ := run_loadFirst_opens opens world
  refine .action_bind_run first ?_
  have looks : Ends begun (lift inspect : Action σ Unit).run fun result later =>
      result = .ok () ∧ later.session.forked = false ∧
        (∀ link, later.session.held = some link → later.Spared link) ∧
        ∀ link, later.session.link = some link →
          link.isIdle later.session.idleLimit later.outside = false :=
    .lift ((inspect_spares begun).mono fun _ _ spared => ⟨rfl, spared⟩)
  refine looks.action_bind (fun _ world looked => ?_) (by simp)
  obtain ⟨-, unforked, spared, busy⟩ := looked
  -- No connection outlives a configuration that has changed.
  have refreshed := run_refresh_opens opens world
  split at refreshed
  · next current => exact .of_run refreshed (World.calm_of_spared unforked current spared busy)
  · refine .of_run refreshed (World.calm_of_bare ?_ ?_ (by simp))
    · simpa [adopt] using unforked
    · exact (steady.modified _ _).symm

end Session

namespace Service.Placid

variable (placid : Placid σ config) {world : World σ}
include placid

/-- Whatever is asked, nothing changes that a session could see. -/
theorem calm_after (calm : world.Calm)
    (suits : ∀ loaded, world.session.loaded = some loaded → loaded.config = config) (call : Call) :
    (world.after call).Calm := by
  refine World.calm_of_spared calm.unforked ?_ (fun link held => ⟨?_, ?_, ?_, ?_⟩)
    fun link held => ?_
  · exact calm.unchanged.trans (placid.modified call world.outside).symm
  · rw [Link.isStolen, World.after, placid.socket]
    exact calm.sound link held
  · exact placid.opened _ _
  · exact (calm.own link held).trans (congrArg some (placid.process call world.outside)).symm
  · rw [Link.isForOther, World.after, placid.user]
    exact calm.familiar link held
  · -- Time may pass only where connections may be idle as long as they like.
    rcases placid.timely with unlimited | still
    · cases configured : world.session.loaded with
      | none => simp [Link.isIdle, Session.idleLimit, configured]
      | some loaded =>
        simp [Link.isIdle, Session.idleLimit, configured, suits loaded configured, unlimited]
    · have busy := calm.busy link held
      simp only [Link.isIdle, World.after, still] at busy ⊢
      exact busy

theorem spares {loaded : Loaded} (suits : loaded.config = config) : Spares σ loaded where
  modified := placid.modified
  calm world call _ configured calm _ := placid.calm_after calm (by simp [configured, suits]) call

end Service.Placid

namespace Session

/-- A calm session comes to a connection, and no hazard has come to that. -/
theorem establish_calm (opens : Service.Opens σ config) (placid : Service.Placid σ config)
    {world : World σ} {loaded : Loaded} (calm : world.Calm) (suits : world.session.Suits config)
    (configured : world.session.loaded = some loaded) :
    ∃ later, (establish : Action σ Unit).run world = some (.ok (), later) ∧ later.Calm ∧
      later.session.link.isSome ∧ later.session.loaded = some loaded := by
  cases held : world.session.link with
  | some link =>
    exact ⟨world, run_establish_held (by simp [held]), calm, by simp [held], configured⟩
  | none =>
    obtain ⟨options, ran⟩ := run_establish_opens opens configured suits.placed held
    refine ⟨_, ran, ?_, rfl, configured⟩
    let made := world.connected options
    let greeted := made.after (made.greeting loaded.config)
    have current : made.session.loaded.bind Loaded.modified = Service.modified made.outside :=
      calm.unchanged.trans (placid.modified _ _).symm
    -- The connection was made on what the session sees now.
    have user : Service.effectiveUser greeted.outside = made.user := placid.user _ _
    refine World.calm_of_spared calm.unforked (current.trans (placid.modified _ _).symm)
      (fun link held => ?_) fun link held => ?_
    · obtain rfl := Option.some.inj ((Session.hold_held _ _).symm.trans held)
      refine ⟨?_, placid.opened _ _, rfl, ?_⟩
      · simp [Link.isStolen, Link.ofConnection, World.welcomed]
      · simp [Link.isForOther, Link.ofConnection, World.welcomed, made, greeted, user]
    · obtain rfl := Option.some.inj ((Session.hold_link _ _).symm.trans held)
      exact Link.busy_of_now _ rfl

end Session

end NameService
