import ActorSilo.Error
import ActorSilo.Json.Write
import ActorSilo.Text.Hex

/-! # Writing answers

The shapes in which answers show the library's values: identities by their display
text, bodies as lowercase hexadecimal, responses and request outcomes as small tagged
objects, and messages as a summary of all their fields. Failures are
`{"error": kind, "message": sentence}`; a sentence never shows an activation or
correlation id, which are replaced by `act-*` and `corr-*` (`ActivationId(*)` in
structural text), because those ids are drawn at random by a running silo.
-/

namespace ActorSilo.Scenario

/-- A display text, or `null`. -/
def textOr (s : Option String) : Json := Json.opt .str s

/-- A call chain entry: `[grain, activation, interface, method]`. -/
def chainEntryJson (e : CallChainEntry) : Json :=
  .arr [.str e.grain.render, .str (activationText e.activation), .nat e.interfaceId, .nat e.methodId]

/-- A response: `{"success": hex}`, `{"application": text}`, `{"deadlock": chain}`,
`{"timeout_ms": ms}` or `{"rejection": kind, "reason": text}`. -/
def responseJson : Response → Json
  | .success b => .obj [("success", .str (Text.hexOfBytes b))]
  | .fault (.application t) => .obj [("application", .str t)]
  | .fault (.deadlock c) => .obj [("deadlock", .arr (c.map chainEntryJson))]
  | .fault (.timeout d) => .obj [("timeout_ms", .nat d.millisCapped)]
  | .rejection k r => .obj [("reason", .str r), ("rejection", .str k.name)]

def requestErrorJson (e : RequestError) : Json :=
  let extra : List (String × Json) := match e with
    | .rejected k _ => [("rejection", .str k.name)]
    | .deadlock c => [("chain", .arr (c.map chainEntryJson))]
    | .timeout d => [("after_ms", .nat d.millisCapped)]
    | _ => []
  Json.ofFields ([("kind", .str e.name), ("message", .str e.message)] ++ extra)

/-- A request outcome: `{"ok": hex}` or `{"err": failure}`. -/
def resultJson : Except RequestError (List UInt8) → Json
  | .ok b => .obj [("ok", .str (Text.hexOfBytes b))]
  | .error e => .obj [("err", requestErrorJson e)]

/-- A placement strategy: its name, or the local bounds, or the chosen silo's text. -/
def strategyJson : PlacementStrategy → Json
  | .random => .str "Random"
  | .preferLocal => .str "PreferLocal"
  | .local_ min max => .obj [("Local", .obj [("max", .nat max), ("min", .nat min)])]
  | .loadAware => .str "LoadAware"
  | .explicit s => .obj [("Explicit", .str s.render)]
  | .graphPartition => .str "GraphPartition"

def messageJson (m : Message) : Json :=
  Json.ofFields [("id", .str (correlationText m.id)), ("dir", .str m.direction.name),
    ("sending_silo", textOr (m.sendingSilo.map SiloAddress.render)),
    ("sending_grain", textOr (m.sendingGrain.map GrainId.render)),
    ("sending_act", textOr (m.sendingActivation.map activationText)),
    ("target_silo", textOr (m.targetSilo.map SiloAddress.render)),
    ("target_grain", .str m.targetGrain.render),
    ("target_act", textOr (m.targetActivation.map activationText)),
    ("iface", .nat m.interfaceId), ("method", .nat m.methodId),
    ("body", .str (Text.hexOfBytes m.body)),
    ("response", Json.opt responseJson m.response),
    ("flags", .nat m.flags.bits), ("has_expiry", .bool m.expiresAt.isSome),
    ("placement", Json.opt strategyJson m.placement),
    ("new_placement", .bool m.isNewPlacement),
    ("chain", .arr (m.callChain.map chainEntryJson)),
    ("forward_count", .nat m.forwardCount), ("resend_count", .nat m.resendCount),
    ("cache_inv", .arr (m.cacheInvalidation.map fun a => .str a.render))]

def isLowerHex (c : Char) : Bool := c.isDigit || ('a' ≤ c && c ≤ 'f')

/-- An id at the start of a text: its marker and what follows the hidden part. An id is
`act-` or `corr-` and sixteen lowercase hexadecimal digits, or `ActivationId(`, decimal
digits and `)` (the parenthesis stays). -/
def idAt? (s : List Char) : Option (List Char × List Char) :=
  let hex (marker : List Char) : Option (List Char × List Char) :=
    if marker.isPrefixOf s then
      let after := s.drop marker.length
      let digits := after.take 16
      if digits.length == 16 && digits.all isLowerHex then some (marker, after.drop 16) else none
    else none
  let decimal (marker : List Char) : Option (List Char × List Char) :=
    if marker.isPrefixOf s then
      let after := s.drop marker.length
      let digits := after.takeWhile Char.isDigit
      let tail := after.drop digits.length
      if !digits.isEmpty && tail.head? == some ')' then some (marker, tail) else none
    else none
  (hex "act-".toList).orElse fun _ =>
    (hex "corr-".toList).orElse fun _ => decimal "ActivationId(".toList

/-- Hides the ids of a text, left to right: each id found becomes its marker and `*`,
and the search goes on after it. -/
def maskIds (s : List Char) : List Char :=
  go s (s.length + 1)
where
  go (s : List Char) : Nat → List Char
    | 0 => s
    | fuel + 1 =>
      match s with
      | [] => []
      | c :: rest =>
        match idAt? (c :: rest) with
        | some (marker, tail) => marker ++ ['*'] ++ go tail fuel
        | none => c :: go rest fuel

def masked (s : String) : String := String.ofList (maskIds s.toList)

example : masked "corr-0123456789abcdeact-0123456789abcdef" = "corr-*ct-0123456789abcdef" := by
  decide +kernel
example : masked "ActivationId(12) act-000000000000002a" = "ActivationId(*) act-*" := by
  decide +kernel

def plainFailureJson (kind message : String) : Json :=
  .obj [("error", .str kind), ("message", .str message)]

def failureJson (kind message : String) : Json := plainFailureJson kind (masked message)

end ActorSilo.Scenario
