import ActorSilo.Proofs.CalmMessaging
import ActorSilo.Proofs.CollectionWheel

/-! # The life of an activation and the running silo change the world soundly

The code that starts, destroys, shuts down and collects activations, the procedures of the
silo's tasks and what grain code may ask of the silo are `SiloM.Sound`, given sound grain code
(`Grains.Sound`). A scan of the wheel hands back the activations it was given with only their
tickets moved (`Collector.scanStale_rescans`), so storing them back is a `rescan` change.

**Main results:** `SiloM.run_keeps` (every procedure of a silo task is sound) and
`SiloM.drive_changes` (every run of a silo changes the world only by `World.Change`s).
-/

namespace ActorSilo

namespace Activation

theorem setState_unmoved {a b : Activation} {next : ActivationState}
    (unmoved : a.setState next = (b, false)) : b = a := by
  unfold setState at unmoved
  split at unmoved
  · cases unmoved
  · cases unmoved
    rfl

end Activation

namespace Collector

/-- Every activation of `acts'` is one of `acts` with its collection ticket moved. -/
def Rescans (acts acts' : List Activation) : Prop := ∀ a ∈ acts', ∃ b ∈ acts, b.Reticketed a

theorem Rescans.refl (acts : List Activation) : Rescans acts acts :=
  fun a member => ⟨a, member, .refl a⟩

theorem Rescans.trans {acts₁ acts₂ acts₃ : List Activation} (first : Rescans acts₁ acts₂)
    (second : Rescans acts₂ acts₃) : Rescans acts₁ acts₃ := by
  intro a member
  obtain ⟨b, inside, moved⟩ := second a member
  obtain ⟨c, inside', moved'⟩ := first b inside
  exact ⟨c, inside', moved'.trans moved⟩

theorem Rescans.replace {acts acts' : List Activation} {id : Nat} {a b : Activation}
    (rescans : Rescans acts acts') (found : find? acts' id = some a) (moved : a.Reticketed b) :
    Rescans acts (Collector.replace acts' b) := by
  intro x member
  rcases mem_replace member with rfl | inside
  · obtain ⟨c, inside, moved'⟩ := rescans a (find?_mem found).1
    exact ⟨c, inside, moved'.trans moved⟩
  · exact rescans x inside

theorem scanBucket_rescans {c : Collector} {acts : List Activation} {k : Nat} {now : Instant}
    {r : Collector × List Activation × List Nat} (scanned : c.scanBucket acts k now = .ok r) :
    Rescans acts r.2.1 := by
  unfold scanBucket at scanned
  refine foldlM_invariant (fun acc _ => Rescans acts acc.2.1) ?_ _ _ r (Rescans.refl acts) scanned
  rintro ⟨c, acts', stale⟩ id _ next rescans visited
  dsimp only at visited rescans
  cases found : find? acts' id with
  | none =>
    rw [found] at visited
    cases visited
    exact rescans
  | some a =>
    rw [found] at visited
    dsimp only at visited
    have claimed := Rescans.replace rescans found (Activation.reticketed_set a none true)
    split at visited
    · cases visited
      exact rescans
    split at visited
    · cases visited
      exact claimed
    -- scheduled again or not, the claimed activation goes back
    dsimp only [bind, Except.bind, pure, Except.pure] at visited
    split at visited
    · cases visited
    · split at visited
      · rename_i b placed
        cases visited
        exact Rescans.replace rescans found ((Activation.reticketed_set a none true).trans
          (schedule_reticketed placed))
      · cases visited
        exact claimed

/-- The periodic scan visits the due buckets in turn. -/
theorem scanStale_rescans {c : Collector} {acts : List Activation} {now : Instant}
    {r : Collector × List Activation × List Nat} (scanned : c.scanStale acts now = .ok r) :
    Rescans acts r.2.1 := by
  unfold scanStale at scanned
  dsimp only [bind, Except.bind, pure, Except.pure] at scanned
  split at scanned
  · cases scanned
  split at scanned
  · cases scanned
    exact Rescans.refl acts
  split at scanned
  · cases scanned
  · rename_i v folded
    cases scanned
    refine foldlM_invariant (fun acc _ => Rescans acts acc.2.1) ?_ _ _ v (Rescans.refl acts) folded
    intro acc k _ next rescans visited
    split at visited
    · cases visited
    · rename_i bucket scanned
      cases visited
      have moved := scanBucket_rescans scanned
      exact rescans.trans moved

end Collector

namespace World

variable {γ : Type}

theorem mem_newest {w : World γ} {a : Activation} (member : a ∈ w.newest) :
    ∃ id slot, w.slotOf? id = some slot ∧ w.record? slot = some a := by
  unfold newest at member
  obtain ⟨id, _, found⟩ := List.mem_filterMap.mp member
  obtain ⟨slot, slotted, found⟩ := Option.bind_eq_some_iff.mp found
  exact ⟨id, slot, slotted, found⟩

theorem changes_rescan {w : World γ} {as : List Activation} (rescans : Collector.Rescans w.newest as)
    (c : Collector) : w.Changes { w.putNewest as with collector := c } := by
  refine (Change.rescan fun a member => ?_).changes.tail (Change.wheel c)
  obtain ⟨b, inside, moved⟩ := rescans a member
  obtain ⟨id, slot, slotted, found⟩ := mem_newest inside
  exact ⟨id, slot, b, slotted, found, moved⟩

end World

namespace Grains

/-- Grain code that changes the world only as the silo's own code does. -/
structure Sound (γ : Type) [Grains γ] : Prop where
  onActivate : ∀ ctx state, SiloM.Sound (Grains.onActivate ctx state : SiloM γ (Attempt Unit))
  onDeactivate : ∀ ctx reason, SiloM.Sound (Grains.onDeactivate ctx reason : SiloM γ (Attempt Unit))
  invoke : ∀ ctx iface method body,
    SiloM.Sound (Grains.invoke ctx iface method body : SiloM γ (Attempt (List UInt8)))

/-- Grain code that leaves the lives of activations alone and starts no activation. -/
structure Calm (γ : Type) [Grains γ] : Prop where
  onActivate : ∀ ctx state, SiloM.Calm (Grains.onActivate ctx state : SiloM γ (Attempt Unit))
  onDeactivate : ∀ ctx reason, SiloM.Calm (Grains.onDeactivate ctx reason : SiloM γ (Attempt Unit))
  invoke : ∀ ctx iface method body,
    SiloM.Calm (Grains.invoke ctx iface method body : SiloM γ (Attempt (List UInt8)))

theorem Calm.sound [Grains γ] (calm : Calm γ) : Sound γ :=
  ⟨fun ctx state => (calm.onActivate ctx state).sound,
    fun ctx reason => (calm.onDeactivate ctx reason).sound,
    fun ctx iface method body => (calm.invoke ctx iface method body).sound⟩

end Grains

namespace SiloM

variable {γ : Type}

/-! ## Starting an activation -/

theorem calm_stillActivating (slot : Nat) : Calm (stillActivating slot : SiloM γ Bool) :=
  (calm_record? slot).bind fun _ => calm_pure _

theorem calm_loadState (t : GrainType) (g : GrainId) :
    Calm (loadState t g : SiloM γ (Except ActivationError (Option StoredState))) := by
  unfold loadState
  split
  · refine calm_get.bind fun w => ?_
    split
    · exact calm_pure _
    · refine (calm_sleepFor _).bind fun _ => ?_
      split
      · exact calm_pure _
      · exact calm_pure _
  · exact calm_pure _

theorem calm_registerInDirectory (a : Activation) :
    Calm (registerInDirectory a : SiloM γ (Except ActivationError Unit)) := by
  refine CalmTriple.bind calmTriple_get fun w => ?_
  split
  · split
    · exact (calm_pure _).triple
    · exact (Calm.bind (calm_modify fun _ => .directory (.register _)) fun _ => calm_pure _).triple
  · split
    · exact (calm_pure _).triple
    -- the directory the registration was read off is the one it replaces
    have registered := Directory.Step.registerSingle (d := w.directory) a.address
    generalize w.directory.registerSingle a.address = p at registered ⊢
    obtain ⟨d, reg⟩ := p
    refine CalmTriple.bind (calmTriple_modify fun w' ⟨_, same⟩ => ?_) fun _ => ?_
    · subst same
      exact .directory registered
    · cases reg with
      | registered _ => exact (calm_pure _).triple
      | duplicate _ => exact (calm_pure _).triple

theorem sound_activate [Grains γ] (grains : Grains.Sound γ) (slot : Nat) :
    Sound (activate slot : SiloM γ (Except ActivationError Unit)) := by
  refine (sound_record? slot).bind fun r => ?_
  cases r with
  | none => exact sound_pure _
  | some a =>
    dsimp only
    refine sound_get.bind fun w => ?_
    cases Grains.create slot a w.app with
    | none => exact sound_panic _
    | some app =>
      refine Sound.bind (sound_modify fun w => .single (.outside rfl rfl rfl rfl rfl rfl rfl)) fun _ => ?_
      refine (sound_withRecord fun _ _ b _ => ?_).bind fun moved => ?_
      · rcases moving : b.setState .activating with ⟨c, _ | _⟩
        · exact .inl (Activation.setState_unmoved moving)
        · exact .inr (.activating moving)
      refine sound_ite (sound_pure _) ((calm_loadState _ _).sound.bind fun r => ?_)
      cases r with
      | error => exact sound_pure _
      | ok state =>
        refine (sound_pure _).bind fun state => (calm_stillActivating slot).sound.bind fun _ => ?_
        refine sound_ite (sound_pure _) ((calm_registerInDirectory a).sound.bind fun r => ?_)
        split
        · exact sound_pure _
        refine (calm_stillActivating slot).sound.bind fun _ => sound_ite (sound_pure _) ?_
        refine (sound_catchPanic (grains.onActivate _ _)).bind fun r => ?_
        -- the hook's outcome; after a hook that succeeded the state is read again
        split
        · exact sound_pure _
        · exact sound_pure _
        · exact sound_pure _
        refine (calm_stillActivating slot).sound.bind fun _ => sound_ite ?_ (sound_pure _)
        exact (sound_record? slot).bind fun _ =>
          (sound_catchPanic (grains.onDeactivate _ _)).bind fun _ => sound_pure _

theorem sound_onActivationFailed (slot : Nat) (err : ActivationError) :
    Sound (onActivationFailed slot err : SiloM γ Unit) := by
  unfold onActivationFailed
  extract_lets forwardTo
  -- where the requests go depends only on the winner the failure names, if any
  generalize forwardTo = winner
  refine (sound_withRecord fun _ _ _ _ => .inr (.fail _)).bind fun pending => Calm.sound ?_
  refine (calm_unregisterLocally slot).bind fun _ => (calm_record? slot).bind fun r => ?_
  cases r with
  | none => exact calm_pure ()
  | some a =>
    cases winner with
    | some _ => exact (calm_forM fun _ _ => calm_redirect _ _ _).bind fun _ => calm_notifyDeactivated slot
    | none =>
      exact (calm_forM fun _ _ => calm_reject _ _ _).bind fun _ =>
        (calm_unregisterAddress _).bind fun _ => calm_notifyDeactivated slot

theorem sound_initActivation [Grains γ] (grains : Grains.Sound γ) (slot : Nat) :
    Sound (initActivation slot : SiloM γ Unit) := by
  refine (sound_activate grains slot).bind fun result => ?_
  cases result with
  | ok =>
    exact Sound.bind (sound_onActivateDeactivateCompleted slot) fun _ =>
      sound_modify fun _ => .single (.outside rfl rfl rfl rfl rfl rfl rfl)
  | error e =>
    exact Sound.bind (sound_onActivationFailed slot e) fun _ =>
      sound_modify fun _ => .single (.outside rfl rfl rfl rfl rfl rfl rfl)

/-! ## Destroying and shutting down -/

theorem sound_beginDestroy (slot : Nat) :
    Sound (beginDestroy slot : SiloM γ (Option (Nat × Bool × DeactivationReason))) := by
  refine sound_update fun _ w => ?_
  cases found : w.record? slot with
  | none => exact .refl
  | some a =>
    dsimp only
    split
    · exact .refl
    have moving : a.Step w.config (a.setState .deactivating).1 := .deactivating
    generalize a.setState .deactivating = p at moving ⊢
    obtain ⟨b, _ | _⟩ := p
    · exact .refl
    · exact (World.Change.record found moving).changes

theorem sound_deactivateHook [Grains γ] (grains : Grains.Sound γ) (slot : Nat)
    (reason : DeactivationReason) : Sound (deactivateHook slot reason : SiloM γ Unit) := by
  refine (sound_record? slot).bind fun r => ?_
  cases r with
  | none => exact sound_pure ()
  | some a =>
    exact (sound_catchPanic (grains.onDeactivate _ _)).bind fun _ => sound_pure ()

theorem sound_endRecord (slot : Nat) : Sound (endRecord slot : SiloM γ Unit) := by
  refine (sound_withRecord fun _ _ _ _ => .inr .close).bind fun pending => Calm.sound ?_
  refine (calm_unregisterLocally slot).bind fun _ => (calm_record? slot).bind fun r => ?_
  cases r with
  | none => exact calm_pure ()
  | some a =>
    exact (calm_invalidateCache _).bind fun _ => (calm_notifyDeactivated slot).bind fun _ =>
      calm_forM fun _ _ => calm_sendMessage _

theorem sound_destroyActivations [Grains γ] (grains : Grains.Sound γ) (slots : List Nat) :
    Sound (destroyActivations slots : SiloM γ Unit) := by
  refine (sound_filterMapM fun slot _ => sound_beginDestroy slot).bind fun batch => ?_
  refine sound_ite (sound_pure ()) ?_
  refine Sound.bind (sound_all fun x member => ?_) fun _ => sound_get.bind fun w => ?_
  · obtain ⟨⟨slot, hook, reason⟩, _, rfl⟩ := List.mem_map.mp member
    exact sound_ite (sound_deactivateHook grains slot reason) (sound_pure ())
  -- the directory forgets the batch together, unless it refuses; then each record ends
  split
  · exact Sound.bind (calm_modify fun _ => .directory (.unregisterMany _)).sound fun _ =>
      sound_forM fun _ _ => sound_endRecord _
  · exact sound_forM fun _ _ => sound_endRecord _

theorem sound_markShutdown (reason : DeactivationReason) (slot : Nat) :
    Sound (markShutdown reason slot : SiloM γ (Option Bool)) := by
  refine sound_update fun _ w => ?_
  cases found : w.record? slot with
  | none => exact .refl
  | some a =>
    -- marked already, marked and idle, or marked to go once idle
    have shutdown : a.Step w.config (a.startShuttingDown reason).1 := .shutdown reason
    have later : a.Step w.config ((a.startShuttingDown reason).1.addOnIdle .destroy) :=
      .shutdownLater reason
    dsimp only
    rcases marked : a.startShuttingDown reason with ⟨b, _ | _⟩
    · rw [marked] at shutdown
      exact (World.Change.record found shutdown).changes
    · rw [marked] at shutdown later
      dsimp only
      split
      · exact (World.Change.record found shutdown).changes
      · exact (World.Change.record found later).changes

theorem sound_shutdownActivations [Grains γ] (grains : Grains.Sound γ) (slots : List Nat)
    (reason : DeactivationReason) : Sound (shutdownActivations slots reason : SiloM γ Unit) := by
  refine sound_ite (sound_pure ()) ?_
  refine (sound_mapM fun slot _ => (sound_markShutdown reason slot).bind fun _ => sound_pure _).bind
    fun marks => sound_all fun x member => ?_
  simp only [List.mem_cons, List.not_mem_nil, or_false] at member
  rcases member with rfl | rfl
  · exact sound_destroyActivations grains _
  · exact sound_all fun x member => by
      obtain ⟨slot, _, rfl⟩ := List.mem_map.mp member
      exact (calm_waitDeactivated slot).sound

/-! ## Collection -/

theorem sound_collectStale [Grains γ] (grains : Grains.Sound γ) :
    Sound (collectStale : SiloM γ Nat) := by
  refine Async.Triple.bind triple_get fun w => Async.Triple.bind triple_now fun now => ?_
  split
  · exact Async.Triple.panic _
  · rename_i scanned
    refine Async.Triple.bind (triple_modify fun w' ⟨_, same⟩ => ?_) fun _ => Sound.triple ?_
    · subst same
      exact World.changes_rescan (Collector.scanStale_rescans scanned) _
    · exact sound_ite ((sound_shutdownActivations grains _ _).bind fun _ => sound_pure _)
        (sound_pure _)

theorem calm_delayDeactivation (slot : Nat) (d : Duration) :
    Calm (delayDeactivation slot d : SiloM γ Unit) :=
  calm_get.bind fun _ => calm_changeRecord (fun _ now _ _ => .keepAlive _ now)
    fun now a => Activation.life_delayDeactivation a _ now

theorem calm_deactivateOnIdle (slot : Nat) : Calm (deactivateOnIdle slot : SiloM γ Unit) :=
  Calm.bind (calm_changeRecord (fun _ _ _ _ => .resetKeepAlive) fun _ _ => rfl) fun _ =>
    calm_launch fun _ => Proc.noConfusion

/-! ## Turns -/

theorem spec_invoke [Grains γ] {L : Program.Logic (World γ) Event Proc} (admissible : Admissible L)
    (methods : ∀ ctx iface method body, Async.Spec L (fun _ => True)
      (Grains.invoke ctx iface method body : SiloM γ (Attempt (List UInt8))) fun _ _ => True)
    (slot : Nat) (m : Message) : Async.Spec L (fun _ => True) (invoke slot m : SiloM γ Unit) fun _ _ => True := by
  refine (calm_record? slot L admissible).bind fun r => ?_
  cases r with
  | none => exact calm_pure () L admissible
  | some a =>
    dsimp only
    split
    on_goal 1 => refine (Async.Spec.catchPanic (methods _ _ _ _) fun _ => trivial).bind fun _ =>
      (calm_pure _ L admissible).bind fun outcome => ?_
    on_goal 2 => refine (calm_pure _ L admissible).bind fun outcome => ?_
    -- with or without a grain instance, the outcome answers a request and the turn ends
    all_goals
      refine calm_ite ?_ (calm_onCompletedRequest slot m) L admissible
      cases outcome <;> exact (calm_sendResponse _ _).bind fun _ => calm_onCompletedRequest slot m

theorem sound_invoke [Grains γ] (grains : Grains.Sound γ) (slot : Nat) (m : Message) :
    Sound (invoke slot m : SiloM γ Unit) :=
  (spec_invoke admissible_keeps (fun ctx iface method body _ => grains.invoke ctx iface method body)
    slot m).triple

/-! ## The running silo -/

theorem calm_takeInbound : Calm (takeInbound : SiloM γ (Option Message)) := by
  refine calm_update fun _ w => ?_
  split
  · exact .refl w
  · exact .outside rfl rfl rfl rfl rfl rfl rfl rfl

theorem calm_start : Calm (start : SiloM γ Unit) :=
  (calm_spawn (calmTask_call fun _ => Proc.noConfusion)).bind fun _ => calm_get.bind fun _ =>
    (calm_spawn (calm_now.task.bind fun _ => calmTask_call fun _ => Proc.noConfusion)).bind fun _ =>
      calm_modify fun _ => .outside rfl rfl rfl rfl rfl rfl rfl rfl

theorem calm_siloCall (target : GrainId) (iface method : Nat) (body : List UInt8) (flags : MessageFlags) :
    Calm (call target iface method body flags : SiloM γ (Except RequestError (List UInt8))) :=
  calm_freshId.bind fun _ => calm_sendRequest _

/-- Every procedure a task of the silo runs changes the world only by the listed changes, from
whatever world it starts in. -/
theorem run_keeps [Grains γ] (grains : Grains.Sound γ) (p : Proc) :
    (Proc.run p : Program (World γ) Event Proc).KeepsAlways (fun _ => True) World.Changes := by
  cases p with
  | pump =>
    refine Sound.keepsAlways ((calm_waitToTake _ _).sound.bind fun _ => calm_takeInbound.sound.bind fun r => ?_)
    cases r with
    | none => exact Async.Triple.call _
    | some m => exact (sound_receiveMessage m).bind fun _ => Async.Triple.call _
  | ticker due period =>
    exact Sound.keepsAlways ((calm_sleepUntil due).task.bind fun _ => calm_now.task.bind fun _ =>
      (calm_launch fun _ => Proc.noConfusion).task.bind fun _ => calmTask_call fun _ => Proc.noConfusion).sound
  | collect => exact Sound.keepsAlways ((sound_collectStale grains).bind fun _ => sound_pure ())
  | callbackTick id due period => exact Sound.keepsAlways (calmTask_tickRound id due period).sound
  | address m => exact Sound.keepsAlways (calm_addressMessage m).sound
  | init slot => exact Sound.keepsAlways (sound_initActivation grains slot)
  | turn slot m =>
    refine Sound.keepsAlways (Sound.bind (sound_invoke grains slot m) fun _ => (calm_modify fun _ => ?_).sound)
    exact .outside rfl rfl rfl rfl rfl rfl rfl rfl
  | destroy slots => exact Sound.keepsAlways (sound_destroyActivations grains slots)
  | shutdown slots reason => exact Sound.keepsAlways (sound_shutdownActivations grains slots reason)
  | forward stale m =>
    exact Sound.keepsAlways ((calm_unregisterAddress stale).bind fun _ => calm_forwardOrReject m stale).sound
  | unregisterLater stale delay =>
    exact Sound.keepsAlways ((calm_sleepFor delay).bind fun _ => calm_unregisterAddress stale).sound

/-- Every run of a silo, in whatever order its tasks run, changes the world only by the changes
`World.Change` lists, and leaves tasks that go on doing so. -/
theorem drive_changes [Grains γ] (grains : Grains.Sound γ) (steps rounds : Nat)
    (x : Executor (World γ) Event Proc) (tasks : x.TasksKeep (fun _ => True) World.Changes)
    (main : x.main.KeepsAlways (fun _ => True) World.Changes) {x' : Executor (World γ) Event Proc}
    {out : Outcome} (run : Executor.drive Proc.run steps rounds x = (x', out)) :
    Relation.ReflTransGen World.Change x.world x'.world ∧ x'.TasksKeep (fun _ => True) World.Changes := by
  have reached := Executor.drive_keeps (run_keeps grains) (fun _ _ _ _ => trivial) steps rounds x
    trivial tasks main x' out run
  refine ⟨?_, reached.tasks⟩
  have steps := reached.steps
  rwa [Relation.reflTransGen_eq_self] at steps

theorem start_changes [Grains γ] (grains : Grains.Sound γ) {program : SiloM γ Unit}
    (sound : Sound program) (steps rounds : Nat) (x : Executor (World γ) Event Proc)
    (tasks : x.TasksKeep (fun _ => True) World.Changes) {x' : Executor (World γ) Event Proc}
    {out : Outcome} (run : Executor.start Proc.run steps rounds x program.toProgram = (x', out)) :
    Relation.ReflTransGen World.Change x.world x'.world ∧ x'.TasksKeep (fun _ => True) World.Changes :=
  drive_changes grains steps rounds { x with main := .line program.toProgram [] none, mainWoken := true }
    tasks (fun w _ => .line (sound.keepsAlways w trivial) fun _ member => (List.not_mem_nil member).elim)
    run

end SiloM

namespace GrainContext

variable {γ : Type}

open SiloM

theorem calm_call (ctx : GrainContext) (target : GrainId) (iface method : Nat) (body : List UInt8)
    (flags : MessageFlags) :
    Calm (ctx.call target iface method body flags : SiloM γ (Except RequestError (List UInt8))) :=
  calm_freshId.bind fun _ => calm_sendRequest _

theorem calm_sendOneWay (ctx : GrainContext) (target : GrainId) (iface method : Nat)
    (body : List UInt8) : Calm (ctx.sendOneWay target iface method body : SiloM γ Unit) :=
  calm_freshId.bind fun _ => SiloM.calm_sendOneWay _

theorem calm_delayDeactivation (ctx : GrainContext) (d : Duration) :
    Calm (ctx.delayDeactivation d : SiloM γ Unit) :=
  SiloM.calm_delayDeactivation _ _

theorem calm_deactivateOnIdle (ctx : GrainContext) : Calm (ctx.deactivateOnIdle : SiloM γ Unit) :=
  SiloM.calm_deactivateOnIdle _

end GrainContext

end ActorSilo
