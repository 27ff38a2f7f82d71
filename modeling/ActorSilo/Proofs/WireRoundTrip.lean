import ActorSilo.Proofs.WireReads
import ActorSilo.Proofs.TypedYields

/-! # Messages survive their wire form

Reading a message gives one whose numbers fit their widths, whose flags are known bits and
which has no expiry (`Message.yields_fits`): a record's invariant, the part's `Fits`, starts
at the default and is kept by each field's reader. Together with `Message.reads`, which reads
the wire form of such a message back, this makes writing and reading inverse on the messages
reading gives (`Message.wire_form_reads_back`).

An endpoint read from its text fits (`Endpoint.parse?_fits`), and a duration read has its
nanoseconds carried into seconds (`Duration.fits_of_normalized?`), so silo addresses and
timeouts read back too.
-/

namespace ActorSilo

open Json Json.Decode

/-! ## Decoded parts fit -/

theorem SiloAddress.fits_default : (default : SiloAddress).Fits :=
  ⟨⟨⟨rfl, by decide⟩, by decide⟩, by decide⟩

theorem SiloAddress.yields_fits : Yields SiloAddress.read SiloAddress.Fits := by
  refine yields_record SiloAddress.fits_default ?_
    fun s g v holds ok => (eq_of_require ok) ▸ holds
  intro f mem s holds
  simp only [List.mem_cons, List.mem_nil_iff, or_false] at mem
  rcases mem with rfl | rfl
  · refine yields_stringWith.bind fun e ⟨t, ok⟩ => yields_pure ⟨?_, holds.2⟩
    split at ok
    · cases ok
      exact Endpoint.parse?_fits ‹_›
    · cases ok
  · exact yields_unsigned.bind fun n small => yields_pure ⟨holds.1, small⟩

theorem GrainId.fits_default : (default : GrainId).Fits := Nat.two_pow_pos 64

theorem GrainId.yields_fits : Yields GrainId.read GrainId.Fits := by
  refine yields_record GrainId.fits_default ?_ fun g given v holds ok => (eq_of_require ok) ▸ holds
  intro f mem g holds
  simp only [List.mem_cons, List.mem_nil_iff, or_false] at mem
  rcases mem with rfl | rfl | rfl
  · exact yields_unsigned.bind fun n small => yields_pure small
  · exact Yields.after fun _ => yields_pure holds
  · exact Yields.after fun _ => yields_pure holds

theorem ActivationAddress.fits_default : (default : ActivationAddress).Fits :=
  ⟨SiloAddress.fits_default, GrainId.fits_default, Nat.two_pow_pos 64⟩

theorem ActivationAddress.yields_fits : Yields ActivationAddress.read ActivationAddress.Fits := by
  refine yields_record ActivationAddress.fits_default ?_
    fun a given v holds ok => (eq_of_require ok) ▸ holds
  intro f mem a holds
  simp only [List.mem_cons, List.mem_nil_iff, or_false] at mem
  rcases mem with rfl | rfl | rfl
  · exact SiloAddress.yields_fits.bind fun s fits => yields_pure ⟨fits, holds.2⟩
  · exact GrainId.yields_fits.bind fun g fits => yields_pure ⟨holds.1, fits, holds.2.2⟩
  · exact yields_unsigned.bind fun n small => yields_pure ⟨holds.1, holds.2.1, small⟩

theorem CallChainEntry.fits_default : (default : CallChainEntry).Fits :=
  ⟨GrainId.fits_default, Nat.two_pow_pos 64, Nat.two_pow_pos 32, Nat.two_pow_pos 32⟩

theorem CallChainEntry.yields_fits : Yields CallChainEntry.read CallChainEntry.Fits := by
  refine yields_record CallChainEntry.fits_default ?_
    fun e given v holds ok => (eq_of_require ok) ▸ holds
  intro f mem e holds
  simp only [List.mem_cons, List.mem_nil_iff, or_false] at mem
  obtain ⟨grain, activation, iface, method⟩ := holds
  rcases mem with rfl | rfl | rfl | rfl
  · exact GrainId.yields_fits.bind fun g fits => yields_pure ⟨fits, activation, iface, method⟩
  · exact yields_unsigned.bind fun n small => yields_pure ⟨grain, small, iface, method⟩
  · exact yields_unsigned.bind fun n small => yields_pure ⟨grain, activation, small, method⟩
  · exact yields_unsigned.bind fun n small => yields_pure ⟨grain, activation, iface, small⟩

/-- Carrying the nanoseconds beyond a second gives a duration that fits, or nothing. -/
theorem Duration.fits_of_normalized? {secs nanos : Nat} {d : Duration}
    (carried : Duration.normalized? secs nanos = some d) : d.Fits := by
  unfold Duration.normalized? at carried
  dsimp only at carried
  split at carried
  · cases carried
    exact ⟨by assumption, Nat.mod_lt _ (by decide)⟩
  · cases carried

theorem Duration.yields_fits : Yields Duration.read Duration.Fits := by
  refine yields_record ?_ (fun f _ p _ => yields_any (f.read p)) ?_
  · trivial
  rintro ⟨secs, nanos⟩ given d - ok
  simp only [Duration.read.finish] at ok
  cases required : given.require "struct Duration" ["secs", "nanos"] 2 with
  | error e =>
    rw [required] at ok
    cases ok
  | ok u =>
    rw [required] at ok
    cases carried : Duration.normalized? secs nanos with
    | none =>
      rw [carried] at ok
      cases ok
    | some d' =>
      rw [carried] at ok
      cases ok
      exact Duration.fits_of_normalized? carried

theorem GrainFault.yields_fits : Yields GrainFault.read GrainFault.Fits := by
  refine yields_variant ?_
  intro c mem
  simp only [List.mem_cons, List.mem_nil_iff, or_false] at mem
  rcases mem with rfl | rfl | rfl
  · exact Yields.map ((yields_any _).mono fun _ _ => trivial)
  · refine yields_record ?_ (fun f mem c _ => ?_) fun c given v holds ok => (eq_of_require ok) ▸ holds
    · exact fun e held => by cases held
    · rw [List.mem_singleton] at mem
      subst mem
      exact Yields.seq CallChainEntry.yields_fits
  · refine yields_record ?_ (fun f mem d _ => ?_) fun d given v holds ok => (eq_of_require ok) ▸ holds
    · exact ⟨Nat.two_pow_pos 64, by decide⟩
    · rw [List.mem_singleton] at mem
      subst mem
      exact Duration.yields_fits

theorem Response.yields_fits : Yields Response.read Response.Fits := by
  refine yields_variant ?_
  intro c mem
  simp only [List.mem_cons, List.mem_nil_iff, or_false] at mem
  rcases mem with rfl | rfl | rfl
  · exact Yields.map ((yields_any _).mono fun _ _ => trivial)
  · exact Yields.map GrainFault.yields_fits
  · refine yields_record ?_ (fun f _ p _ => yields_any (f.read p)) ?_
    · trivial
    · rintro ⟨kind, reason⟩ given v - ok
      rw [eq_of_require ok]
      trivial

theorem PlacementStrategy.yields_fits : Yields PlacementStrategy.read PlacementStrategy.Fits := by
  refine yields_variant ?_
  intro c mem
  simp only [List.mem_cons, List.mem_nil_iff, or_false] at mem
  rcases mem with rfl | rfl | rfl | rfl | rfl | rfl
  · trivial
  · trivial
  · refine yields_record (I := fun p : Nat × Nat => p.1 < 2 ^ 64 ∧ p.2 < 2 ^ 64)
      ⟨Nat.two_pow_pos 64, Nat.two_pow_pos 64⟩ ?_ ?_
    · intro f mem p holds
      simp only [List.mem_cons, List.mem_nil_iff, or_false] at mem
      rcases mem with rfl | rfl
      · exact yields_unsigned.bind fun n small => yields_pure ⟨small, holds.2⟩
      · exact yields_unsigned.bind fun n small => yields_pure ⟨holds.1, small⟩
    · rintro ⟨min, max⟩ given v holds ok
      rw [eq_of_require ok]
      exact holds
  · trivial
  · exact Yields.map SiloAddress.yields_fits
  · trivial

/-! ## Messages -/

theorem Message.fits_default : (default : Message).Fits where
  id := Nat.two_pow_pos 64
  sendingSilo := fun _ held => by cases held
  sendingGrain := fun _ held => by cases held
  sendingActivation := fun _ held => by cases held
  targetSilo := fun _ held => by cases held
  targetGrain := GrainId.fits_default
  targetActivation := fun _ held => by cases held
  interfaceId := Nat.two_pow_pos 32
  methodId := Nat.two_pow_pos 32
  response := fun _ held => by cases held
  placement := fun _ held => by cases held
  callChain := fun _ held => by cases held
  forwardCount := Nat.two_pow_pos 8
  resendCount := Nat.two_pow_pos 8
  cacheInvalidation := fun _ held => by cases held
  flags := by decide

/-- Every message read fits its widths and has no expiry: each field's reader gives a value
of the field's width, and flags are cut to their known bits. -/
theorem Message.yields_fits : Yields Message.read fun m => m.Fits ∧ m.expiresAt = none := by
  refine yields_record ⟨Message.fits_default, rfl⟩ ?_
    fun m given v holds ok => (eq_of_require ok) ▸ holds
  intro f mem m ⟨fits, unexpiring⟩
  simp only [Message.fields, List.mem_cons, List.mem_nil_iff, or_false] at mem
  rcases mem with rfl | rfl | rfl | rfl | rfl | rfl | rfl | rfl | rfl | rfl | rfl | rfl | rfl |
    rfl | rfl | rfl | rfl | rfl | rfl
  · exact yields_unsigned.bind fun n small => yields_pure ⟨{ fits with id := small }, unexpiring⟩
  · exact Yields.after fun d => yields_pure ⟨{ fits with }, unexpiring⟩
  · exact (Yields.option SiloAddress.yields_fits).bind fun s each =>
      yields_pure ⟨{ fits with sendingSilo := each }, unexpiring⟩
  · exact (Yields.option GrainId.yields_fits).bind fun g each =>
      yields_pure ⟨{ fits with sendingGrain := each }, unexpiring⟩
  · exact (Yields.option yields_unsigned).bind fun a each =>
      yields_pure ⟨{ fits with sendingActivation := each }, unexpiring⟩
  · exact (Yields.option SiloAddress.yields_fits).bind fun s each =>
      yields_pure ⟨{ fits with targetSilo := each }, unexpiring⟩
  · exact GrainId.yields_fits.bind fun g grain =>
      yields_pure ⟨{ fits with targetGrain := grain }, unexpiring⟩
  · exact (Yields.option yields_unsigned).bind fun a each =>
      yields_pure ⟨{ fits with targetActivation := each }, unexpiring⟩
  · exact yields_unsigned.bind fun n small =>
      yields_pure ⟨{ fits with interfaceId := small }, unexpiring⟩
  · exact yields_unsigned.bind fun n small =>
      yields_pure ⟨{ fits with methodId := small }, unexpiring⟩
  · exact Yields.after fun b => yields_pure ⟨{ fits with }, unexpiring⟩
  · exact (Yields.option Response.yields_fits).bind fun r each =>
      yields_pure ⟨{ fits with response := each }, unexpiring⟩
  · exact Yields.after fun n => yields_pure ⟨{ fits with flags := Nat.mod_lt n (by decide) }, unexpiring⟩
  · exact (Yields.option PlacementStrategy.yields_fits).bind fun p each =>
      yields_pure ⟨{ fits with placement := each }, unexpiring⟩
  · exact Yields.after fun b => yields_pure ⟨{ fits with }, unexpiring⟩
  · exact (Yields.seq CallChainEntry.yields_fits).bind fun c each =>
      yields_pure ⟨{ fits with callChain := each }, unexpiring⟩
  · exact yields_unsigned.bind fun n small =>
      yields_pure ⟨{ fits with forwardCount := small }, unexpiring⟩
  · exact yields_unsigned.bind fun n small =>
      yields_pure ⟨{ fits with resendCount := small }, unexpiring⟩
  · exact (Yields.seq ActivationAddress.yields_fits).bind fun a each =>
      yields_pure ⟨{ fits with cacheInvalidation := each }, unexpiring⟩

/-! ## The round trip -/

/-- The wire form of a message reads back. A message whose numbers fit their widths and whose
flags are known bits comes back without its expiry; every message read from a text fits, has
no expiry, and comes back as itself when written and read again. -/
theorem Message.wire_form_reads_back :
    (∀ m : Message, m.Fits → Message.parse (compact m.toJson) = .ok { m with expiresAt := none }) ∧
    (∀ (text : String) (m : Message), Message.parse text = .ok m → m.Fits ∧ m.expiresAt = none) ∧
    ∀ (text : String) (m : Message), Message.parse text = .ok m →
      Message.parse (compact m.toJson) = .ok m := by
  have written : ∀ m : Message, m.Fits →
      Message.parse (compact m.toJson) = .ok { m with expiresAt := none } :=
    fun m fits => (Message.reads fits 0).run (by decide)
  have parsed : ∀ (text : String) (m : Message), Message.parse text = .ok m →
      m.Fits ∧ m.expiresAt = none :=
    fun text m ok => Message.yields_fits.run ok
  refine ⟨written, parsed, fun text m ok => ?_⟩
  obtain ⟨fits, unexpiring⟩ := parsed text m ok
  -- a message read has no expiry, so writing it loses nothing
  have same : { m with expiresAt := none } = m := by
    cases m
    cases unexpiring
    rfl
  rw [← same]
  exact written m fits

/-- A request to a grain reads back from its wire form. -/
theorem Message.request_reads_back :
    Message.parse (compact (Message.request 7 ⟨3, "counter", .grain⟩ 1 2 [104, 105]).toJson) =
      .ok (Message.request 7 ⟨3, "counter", .grain⟩ 1 2 [104, 105]) :=
  Message.wire_form_reads_back.1 _
    { id := by decide
      sendingSilo := fun _ held => by cases held
      sendingGrain := fun _ held => by cases held
      sendingActivation := fun _ held => by cases held
      targetSilo := fun _ held => by cases held
      targetGrain := show 3 < 2 ^ 64 by decide
      targetActivation := fun _ held => by cases held
      interfaceId := by decide
      methodId := by decide
      response := fun _ held => by cases held
      placement := fun _ held => by cases held
      callChain := fun _ held => by cases held
      forwardCount := by decide
      resendCount := by decide
      cacheInvalidation := fun _ held => by cases held
      flags := by decide }

end ActorSilo
