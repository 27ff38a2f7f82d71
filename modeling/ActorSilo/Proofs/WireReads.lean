import ActorSilo.Proofs.TypedReads
import ActorSilo.Proofs.EndpointText
import ActorSilo.Message.Codec

/-! # The wire form of a message reads back

Each value of a message is written by `toJson` and read by `read`; when every number in it
fits the width its reader gives it (`Fits`), the compact text of the written form reads
back as the value (`Message.reads`). The expiry of a message is not written, so it comes
back absent; flags come back as their known bits.

Each part's lemma is assembled from the lemmas of the readers it is built from: a record
from its members, met in the order the wire form writes them (`reads_record`), a choice
from its content (`reads_variant_content`), an array from its items (`reads_seq`). The
`room` of each lemma counts the levels of nesting its text opens.
-/

namespace ActorSilo

open Json Json.Decode

/-! ## Widths -/

/-- A silo address whose endpoint fits and whose generation is a 64-bit word. -/
def SiloAddress.Fits (s : SiloAddress) : Prop := s.endpoint.Fits ∧ s.generation < 2 ^ 64

/-- A grain id whose type code is a 64-bit word. -/
def GrainId.Fits (g : GrainId) : Prop := g.grainType < 2 ^ 64

/-- An activation address whose silo and grain fit and whose activation is a 64-bit word. -/
def ActivationAddress.Fits (a : ActivationAddress) : Prop :=
  a.silo.Fits ∧ a.grain.Fits ∧ a.activation < 2 ^ 64

/-- A call chain entry: a grain that fits, a 64-bit activation, 32-bit interface and method. -/
def CallChainEntry.Fits (e : CallChainEntry) : Prop :=
  e.grain.Fits ∧ e.activation < 2 ^ 64 ∧ e.interfaceId < 2 ^ 32 ∧ e.methodId < 2 ^ 32

/-- A duration of 64-bit seconds, its nanoseconds below a second. -/
def Duration.Fits (d : Duration) : Prop := d.secs < 2 ^ 64 ∧ d.nanos < nanosPerSec

def GrainFault.Fits : GrainFault → Prop
  | .application _ => True
  | .deadlock chain => ∀ e ∈ chain, e.Fits
  | .timeout after => after.Fits

/-- A response whose fault, if it is one, fits. -/
def Response.Fits : Response → Prop
  | .fault f => f.Fits
  | _ => True

/-- A placement whose bounds are machine words and whose silo fits. -/
def PlacementStrategy.Fits : PlacementStrategy → Prop
  | .local_ min max => min < 2 ^ 64 ∧ max < 2 ^ 64
  | .explicit silo => silo.Fits
  | _ => True

/-! ## The parts of a message -/

theorem SiloAddress.reads {s : SiloAddress} (fits : s.Fits) (room : Nat) :
    Reads SiloAddress.read s.toJson s (room + 1) := by
  refine reads_record ?_ (by simp) rfl
  exact ⟨_, rfl, _, (reads_stringWith (by simp [Endpoint.parse?_render fits.1]) room).bind_pure _,
    _, rfl, _, (reads_unsigned "u64" (by decide) fits.2 room).bind_pure _, rfl⟩

theorem GrainKind.reads (k : GrainKind) (room : Nat) : Reads GrainKind.read (.str k.name) k room := by
  cases k <;> exact reads_variant_plain rfl room

theorem GrainId.reads {g : GrainId} (fits : g.Fits) (room : Nat) :
    Reads GrainId.read g.toJson g (room + 1) := by
  refine reads_record ?_ (by simp) rfl
  exact ⟨_, rfl, _, (reads_unsigned "u64" (by decide) fits room).bind_pure _,
    _, rfl, _, (reads_string g.key room).bind_pure _,
    _, rfl, _, (GrainKind.reads g.kind room).bind_pure _, rfl⟩

theorem ActivationAddress.reads {a : ActivationAddress} (fits : a.Fits) (room : Nat) :
    Reads ActivationAddress.read a.toJson a (room + 2) := by
  refine reads_record ?_ (by simp) rfl
  exact ⟨_, rfl, _, (reads_unsigned "u64" (by decide) fits.2.2 (room + 1)).bind_pure _,
    _, rfl, _, (GrainId.reads fits.2.1 room).bind_pure _,
    _, rfl, _, (SiloAddress.reads fits.1 room).bind_pure _, rfl⟩

theorem CallChainEntry.reads {e : CallChainEntry} (fits : e.Fits) (room : Nat) :
    Reads CallChainEntry.read e.toJson e (room + 2) := by
  refine reads_record ?_ (by simp) rfl
  exact ⟨_, rfl, _, (reads_unsigned "u64" (by decide) fits.2.1 (room + 1)).bind_pure _,
    _, rfl, _, (GrainId.reads fits.1 room).bind_pure _,
    _, rfl, _, (reads_unsigned "u32" (by decide) fits.2.2.1 (room + 1)).bind_pure _,
    _, rfl, _, (reads_unsigned "u32" (by decide) fits.2.2.2 (room + 1)).bind_pure _, rfl⟩

theorem reads_bytes (bs : List UInt8) (room : Nat) : Reads readBytes (bytesJson bs) bs (room + 1) := by
  have each : ∀ n ∈ bs.map UInt8.toNat, Opens (.nat n) ∧ Reads u8 (.nat n) n room := by
    intro n held
    obtain ⟨b, _, rfl⟩ := List.mem_map.mp held
    exact ⟨opens_nat _, reads_unsigned "u8" (by decide) b.toNat_lt room⟩
  have read := (reads_seq each).bind_pure (List.map Nat.toUInt8)
  have values : (bs.map UInt8.toNat).map Nat.toUInt8 = bs := by
    simp [Function.comp_def, Nat.toUInt8]
  have texts : (bs.map UInt8.toNat).map Json.nat = bs.map fun b => .nat b.toNat := List.map_map
  rw [values, texts] at read
  exact read

theorem Duration.reads {d : Duration} (fits : d.Fits) (room : Nat) :
    Reads Duration.read d.toJson d (room + 1) := by
  have nanos : d.nanos < 2 ^ 32 := Nat.lt_trans fits.2 (by decide)
  refine reads_record (t := (d.secs, d.nanos)) ?_ (by simp) ?_
  · exact ⟨_, rfl, _, (reads_unsigned "u32" (by decide) nanos room).bind_pure _,
      _, rfl, _, (reads_unsigned "u64" (by decide) fits.1 room).bind_pure _, rfl⟩
  · have secs : d.secs < 18446744073709551616 := fits.1
    simp [Duration.read.finish, Given.require, Duration.normalized?, Nat.div_eq_of_lt fits.2,
      Nat.mod_eq_of_lt fits.2, secs, Functor.map, Except.map]

theorem GrainFault.reads {f : GrainFault} (fits : f.Fits) (room : Nat) :
    Reads GrainFault.read f.toJson f (room + 5) := by
  cases f with
  | application text =>
    exact reads_variant_content rfl (.inl rfl) ((reads_string text (room + 4)).map _)
  | deadlock chain =>
    have each : ∀ e ∈ chain, Opens e.toJson ∧ Reads CallChainEntry.read e.toJson e (room + 2) :=
      fun e held => ⟨opens_obj _, CallChainEntry.reads (fits e held) room⟩
    refine reads_variant_content rfl (.inr rfl) (reads_record ?_ (by simp) rfl)
    exact ⟨_, rfl, _, reads_seq each, rfl⟩
  | timeout after =>
    refine reads_variant_content rfl (.inr rfl) (reads_record ?_ (by simp) rfl)
    exact ⟨_, rfl, _, (Duration.reads fits (room + 2)), rfl⟩

theorem RejectionKind.reads (k : RejectionKind) (room : Nat) :
    Reads RejectionKind.read (.str k.name) k room := by
  cases k <;> exact reads_variant_plain rfl room

theorem Direction.reads (d : Direction) (room : Nat) : Reads Direction.read (.str d.name) d room := by
  cases d <;> exact reads_variant_plain rfl room

theorem Response.reads {resp : Response} (fits : resp.Fits) (room : Nat) :
    Reads Response.read resp.toJson resp (room + 6) := by
  cases resp with
  | success body => exact reads_variant_content rfl (.inl rfl) ((reads_bytes body (room + 4)).map _)
  | fault f => exact reads_variant_content rfl (.inl rfl) ((GrainFault.reads fits room).map _)
  | rejection kind reason =>
    refine reads_variant_content rfl (.inr rfl) (reads_record (t := (kind, reason)) ?_ (by simp) rfl)
    exact ⟨_, rfl, _, (RejectionKind.reads kind (room + 4)).bind_pure _,
      _, rfl, _, (reads_string reason (room + 4)).bind_pure _, rfl⟩

theorem PlacementStrategy.reads {p : PlacementStrategy} (fits : p.Fits) (room : Nat) :
    Reads PlacementStrategy.read p.toJson p (room + 2) := by
  cases p with
  | random => exact reads_variant_plain rfl _
  | preferLocal => exact reads_variant_plain rfl _
  | local_ min max =>
    refine reads_variant_content rfl (.inr rfl) (reads_record (t := (min, max)) ?_ (by simp) rfl)
    exact ⟨_, rfl, _, (reads_unsigned "usize" (by decide) fits.2 room).bind_pure _,
      _, rfl, _, (reads_unsigned "usize" (by decide) fits.1 room).bind_pure _, rfl⟩
  | loadAware => exact reads_variant_plain rfl _
  | explicit silo => exact reads_variant_content rfl (.inl rfl) ((SiloAddress.reads fits room).map _)
  | graphPartition => exact reads_variant_plain rfl _

/-! ## Messages -/

/-- Every number of a message fits the width its wire form gives it, and its flags are
known bits only. -/
structure Message.Fits (m : Message) : Prop where
  id : m.id < 2 ^ 64
  sendingSilo : ∀ s ∈ m.sendingSilo, s.Fits
  sendingGrain : ∀ g ∈ m.sendingGrain, g.Fits
  sendingActivation : ∀ a ∈ m.sendingActivation, a < 2 ^ 64
  targetSilo : ∀ s ∈ m.targetSilo, s.Fits
  targetGrain : m.targetGrain.Fits
  targetActivation : ∀ a ∈ m.targetActivation, a < 2 ^ 64
  interfaceId : m.interfaceId < 2 ^ 32
  methodId : m.methodId < 2 ^ 32
  response : ∀ r ∈ m.response, r.Fits
  placement : ∀ p ∈ m.placement, p.Fits
  callChain : ∀ e ∈ m.callChain, e.Fits
  forwardCount : m.forwardCount < 2 ^ 8
  resendCount : m.resendCount < 2 ^ 8
  cacheInvalidation : ∀ a ∈ m.cacheInvalidation, a.Fits
  flags : m.flags.bits < 16

theorem reads_opt {α : Type} {x : ReadM α} {toJ : α → Json} {a : Option α} {room : Nat}
    (opens : ∀ v ∈ a, Opens (toJ v)) (reads : ∀ v ∈ a, Reads x (toJ v) v room) :
    Reads (option x) (Json.opt toJ a) a room := by
  cases a with
  | none => exact reads_option_none x room
  | some v => exact reads_option_some (reads v rfl) (opens v rfl)

/-- The wire form of a message whose numbers fit reads back as the message without its
expiry. Nested values need seven levels below the message. -/
theorem Message.reads {m : Message} (fits : m.Fits) (room : Nat) :
    Reads Message.read m.toJson { m with expiresAt := none } (room + 7) := by
  have flagsBack : MessageFlags.ofBits m.flags.bits = m.flags := by
    simp [MessageFlags.ofBits, Nat.mod_eq_of_lt fits.flags]
  have grain : ∀ {g : GrainId}, g.Fits → Reads GrainId.read g.toJson g (room + 6) :=
    fun fits => (GrainId.reads fits (room + 5))
  have silo : ∀ {s : SiloAddress}, s.Fits → Reads SiloAddress.read s.toJson s (room + 6) :=
    fun fits => (SiloAddress.reads fits (room + 5))
  have opensPlacement : ∀ p : PlacementStrategy, Opens p.toJson := by
    intro p
    cases p <;> first | exact opens_str _ | exact opens_obj _
  have opensResponse : ∀ r : Response, Opens r.toJson := by
    intro r
    cases r <;> exact opens_obj _
  refine reads_record ?_ (by simp) rfl
  refine ⟨_, rfl, _, (reads_bytes m.body (room + 5)).bind_pure _, ?_⟩
  refine ⟨_, rfl, _, (reads_seq (fun a held => ⟨opens_obj _,
    ActivationAddress.reads (fits.cacheInvalidation a held) (room + 3)⟩)).bind_pure _, ?_⟩
  refine ⟨_, rfl, _, (reads_seq (fun e held => ⟨opens_obj _,
    CallChainEntry.reads (fits.callChain e held) (room + 3)⟩)).bind_pure _, ?_⟩
  refine ⟨_, rfl, _, (Direction.reads m.direction _).bind_pure _, ?_⟩
  refine ⟨_, rfl, _, (reads_unsigned "u16" (by decide) (Nat.lt_trans fits.flags (by decide)) _).bind_pure _, ?_⟩
  refine ⟨_, rfl, _, (reads_unsigned "u8" (by decide) fits.forwardCount _).bind_pure _, ?_⟩
  refine ⟨_, rfl, _, (reads_unsigned "u64" (by decide) fits.id _).bind_pure _, ?_⟩
  refine ⟨_, rfl, _, (reads_unsigned "u32" (by decide) fits.interfaceId _).bind_pure _, ?_⟩
  refine ⟨_, rfl, _, (reads_bool m.isNewPlacement _).bind_pure _, ?_⟩
  refine ⟨_, rfl, _, (reads_unsigned "u32" (by decide) fits.methodId _).bind_pure _, ?_⟩
  refine ⟨_, rfl, _, (reads_opt (fun p _ => opensPlacement p)
    (fun p held => PlacementStrategy.reads (fits.placement p held) (room + 4))).bind_pure _, ?_⟩
  refine ⟨_, rfl, _, (reads_unsigned "u8" (by decide) fits.resendCount _).bind_pure _, ?_⟩
  refine ⟨_, rfl, _, (reads_opt (fun r _ => opensResponse r)
    (fun r held => Response.reads (fits.response r held) room)).bind_pure _, ?_⟩
  refine ⟨_, rfl, _, (reads_opt (fun a _ => opens_nat a)
    (fun a held => reads_unsigned "u64" (by decide) (fits.sendingActivation a held) _)).bind_pure _, ?_⟩
  refine ⟨_, rfl, _, (reads_opt (fun _ _ => opens_obj _)
    (fun g held => grain (fits.sendingGrain g held))).bind_pure _, ?_⟩
  refine ⟨_, rfl, _, (reads_opt (fun _ _ => opens_obj _)
    (fun s held => silo (fits.sendingSilo s held))).bind_pure _, ?_⟩
  refine ⟨_, rfl, _, (reads_opt (fun a _ => opens_nat a)
    (fun a held => reads_unsigned "u64" (by decide) (fits.targetActivation a held) _)).bind_pure _, ?_⟩
  refine ⟨_, rfl, _, (grain fits.targetGrain).bind_pure _, ?_⟩
  refine ⟨_, rfl, _, (reads_opt (fun _ _ => opens_obj _)
    (fun s held => silo (fits.targetSilo s held))).bind_pure _, ?_⟩
  -- the flags come back as their known bits, which are all of them
  exact congrArg (fun flags => { m with expiresAt := none, flags }) flagsBack.symm

end ActorSilo
