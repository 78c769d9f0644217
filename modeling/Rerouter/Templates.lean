import Rerouter.Lib.Ipv6Addr
import Rerouter.PolicyInventory

/-!
# Action templates

`reroute/templates.rs`: the only way a change of a router can come about. A template carries a
schema of typed parameters and the commands they are put into.

The values of a caller are checked against the schema and written out again in canonical form
(`Rerouter.validateAndExpand`): an address or a number is parsed and printed, a network is cut to
its length, and any other text must be a single word. What is put into a command is one of these
values (`Rerouter.exists_spec_of_validateAndExpand`), so no value can carry a second command
(`Rerouter.noWs_of_validateAndExpand`). `Rerouter.render` fills the commands of a template, and
fails where a parameter of a command has no value.
-/

namespace Rerouter

open Text

/-! ### Networks of either family -/

/-- What `parse_cidr_any` returns: a network address and a length. -/
inductive Network where
  | v4 (net : Ipv4.Addr) (length : ℕ)
  | v6 (net : Ipv6.Addr) (length : ℕ)
deriving DecidableEq

/-- `parse_cidr_any`. -/
def parseNetwork (s : Text) : Except Text Network := do
  let (ip, len) ← okOr (("invalid CIDR '" : Text) ++ s ++ "'") (splitOnce '/' s)
  match Ipv4.parseAddr (trim ip) with
  | some a => do
    let n ← okOr (("invalid prefix length in '" : Text) ++ s ++ "'")
      (parseUnsigned maxU32 (trim len))
    if 32 < n then .error (("prefix length out of range in '" : Text) ++ s ++ "'")
    else .ok (.v4 (a &&& Ipv4.mask n) n)
  | none => do
    let a ← okOr (("invalid IP in '" : Text) ++ s ++ "'") (Ipv6.parseAddr (trim ip))
    let n ← okOr (("invalid prefix length in '" : Text) ++ s ++ "'")
      (parseUnsigned maxU32 (trim len))
    if 128 < n then .error (("prefix length out of range in '" : Text) ++ s ++ "'")
    else .ok (.v6 (a &&& Ipv6.mask n) n)

/-- Whether a network holds another of its family. -/
def Network.holds : Network → Network → Bool
  | .v4 pnet plen, .v4 cnet clen =>
    plen ≤ clen && decide (cnet &&& Ipv4.mask plen = pnet &&& Ipv4.mask plen)
  | .v6 pnet plen, .v6 cnet clen =>
    plen ≤ clen && decide (cnet &&& Ipv6.mask plen = pnet &&& Ipv6.mask plen)
  | _, _ => false

/-- `cidr_contains`, of either family, with its errors. -/
def networkContains (parent child : Text) : Except Text Bool := do
  let p ← parseNetwork parent
  let c ← parseNetwork child
  .ok (p.holds c)

/-- `parse_cidr_v4`: the network address and the length. -/
def parseCidrV4 (s : Text) : Except Text (Ipv4.Addr × ℕ) := do
  let (ip, len) ← okOr "expected CIDR a.b.c.d/len" (splitOnce '/' s)
  let a ← okOr "invalid IPv4 address" (Ipv4.parseAddr (trim ip))
  let n ← okOr "invalid prefix length" (parseUnsigned maxU32 (trim len))
  if 32 < n then .error "prefix length must be 0..32" else .ok (a &&& Ipv4.mask n, n)

/-- `parse_cidr_v6`: the network address and the length. -/
def parseCidrV6 (s : Text) : Except Text (Ipv6.Addr × ℕ) := do
  let (ip, len) ← okOr "expected CIDR addr/len" (splitOnce '/' s)
  let a ← okOr "invalid IPv6 address" (Ipv6.parseAddr (trim ip))
  let n ← okOr "invalid prefix length" (parseUnsigned maxU32 (trim len))
  if 128 < n then .error "prefix length must be 0..128" else .ok (a &&& Ipv6.mask n, n)

/-! ### Schemas -/

/-- The type of a parameter: `ip`, `asn`, `int`, `seq`, `cidr` with its family, and any other. -/
inductive ParamType where
  | ip | asn | int | seq
  | cidr (v6 : Bool)
  | string
deriving DecidableEq

/-- The schema of one parameter. -/
structure ParamSpec where
  type : ParamType
  required : Bool := false
  /-- `default`, where it is a number or a text that is not empty. -/
  default : Option Text := none
  /-- `min_len`: the least length of a network, as the `u32` it is cast to. -/
  minLen : Option ℕ := none
  /-- `enum`. -/
  allowed : Option (List Text) := none
  /-- `subprefix_of`: the parameter whose network holds this one. -/
  subprefixOf : Option Text := none
  /-- `source`: the inventory the value has to be found in. -/
  source : Option Text := none
deriving DecidableEq

/-- A schema, in the order of the names. -/
abbrev Schema := List (Text × ParamSpec)

/-- A value of a caller. A number is given as it prints. -/
inductive ParamValue where
  | string (s : Text)
  | number (printed : Text)
  | other
deriving DecidableEq

/-- The values of a caller. -/
abbrev Params := NameMap ParamValue

/-- `as_str`. -/
def ParamValue.asStr : ParamValue → Option Text
  | .string s => some s
  | _ => none

/-- `DEFERRED_SEQUENCE`: what a sequence number renders as before it is known. -/
def deferredSequence : Text := "<auto-seq>"

/-! ### Values -/

/-- The text given for a parameter, or its default. -/
def paramText (spec : ParamSpec) : Option ParamValue → Option Text
  | some (.string s) => if trim s = [] then spec.default else some (trim s)
  | some (.number printed) => some printed
  | _ => spec.default

/-- A refusal that names a parameter. -/
def paramError (name reason : Text) : Text := ("parameter '" : Text) ++ name ++ "'" ++ reason

/-- `enforce_min_len`. -/
def enforceMinLen (name : Text) (length : ℕ) : Option ℕ → Except Text Unit
  | none => .ok ()
  | some least =>
    if length < least then
      .error (paramError name (" must be /" ++ natText least ++ " or more specific (got /" ++
        natText length ++ ")"))
    else .ok ()

/-- A network parameter, and what is derived from it: `X`, `X_net`, `X_mask` and `X_len`. -/
def expandV4 (name : Text) (net : Ipv4.Addr) (length : ℕ) : List (Text × Text) :=
  [(name, Ipv4.addrText net ++ '/' :: natText length), (name ++ "_net", Ipv4.addrText net),
    (name ++ "_mask", Ipv4.addrText (Ipv4.mask length)), (name ++ "_len", natText length)]

/-- The same of an IPv6 network, which has no mask. -/
def expandV6 (name : Text) (net : Ipv6.Addr) (length : ℕ) : List (Text × Text) :=
  [(name, Ipv6.addrText net ++ '/' :: natText length), (name ++ "_net", Ipv6.addrText net),
    (name ++ "_len", natText length)]

/-- An error, behind the name of the parameter it is about. -/
def aboutParam {α : Type} (name : Text) : Except Text α → Except Text α
  | .ok a => .ok a
  | .error e => .error (paramError name (": " ++ e))

/-- A text given for a parameter, as the values it stands for. -/
def expandValue (name : Text) (spec : ParamSpec) (provided : Text) :
    Except Text (List (Text × Text)) :=
  match spec.type with
  | .ip => do
    let ip ← okOr (paramError name " must be an IPv4 address") (Ipv4.parseAddr provided)
    .ok [(name, Ipv4.addrText ip)]
  | .asn => do
    let asn ← okOr (paramError name " must be an AS number") (parseUnsigned maxU32 provided)
    if asn = 0 then .error (paramError name " must be a non-zero AS number")
    else .ok [(name, natText asn)]
  | .int => do
    let n ← okOr (paramError name " must be a non-negative integer") (parseUnsigned maxU32 provided)
    .ok [(name, natText n)]
  | .seq => do
    let n ← okOr (paramError name " must be a prefix-list sequence number")
      (parseUnsigned maxU32 provided)
    if minSeq ≤ n ∧ n ≤ maxSeq then .ok [(name, natText n)]
    else .error (paramError name
      (" must be between " ++ natText minSeq ++ " and " ++ natText maxSeq))
  | .cidr true => do
    let (net, length) ← aboutParam name (parseCidrV6 provided)
    enforceMinLen name length spec.minLen
    .ok (expandV6 name net length)
  | .cidr false => do
    let (net, length) ← aboutParam name (parseCidrV4 provided)
    enforceMinLen name length spec.minLen
    .ok (expandV4 name net length)
  | .string =>
    if provided.any isWhitespace then .error (paramError name " must not contain whitespace")
    else if spec.allowed.any fun allowed => !allowed.contains provided then
      .error (paramError name (" must be one of: " ++
        List.intercalate (", " : Text) (spec.allowed.getD [])))
    else .ok [(name, provided)]

/-- One parameter of a schema. -/
def expandParam (name : Text) (spec : ParamSpec) (value : Option ParamValue) :
    Except Text (List (Text × Text)) :=
  match paramText spec value with
  | some provided => expandValue name spec provided
  | none =>
    if spec.type = .seq then .ok [(name, deferredSequence)]
    else if spec.required then .error (("missing required parameter '" : Text) ++ name ++ "'")
    else .ok []

/-- The parameters of a schema, one after another. -/
def expandParams (params : Params) : Schema → Except Text (List (Text × Text))
  | [] => .ok []
  | (name, spec) :: schema => do
    let here ← expandParam name spec params[name]?
    let rest ← expandParams params schema
    .ok (here ++ rest)

/-- The map of some values. A later one takes the place of an earlier one. -/
def substOf (values : List (Text × Text)) : NameMap Text :=
  values.foldl (fun subst v => subst.insert v.1 v.2) ∅

/-- A network has to lie in the network of the parameter it names. -/
def checkContained (subst : NameMap Text) : Schema → Except Text Unit
  | [] => .ok ()
  | (name, spec) :: schema =>
    match spec.subprefixOf with
    | none => checkContained subst schema
    | some parent =>
      match subst[name]?, subst[parent]? with
      | some child, some par => do
        if ← networkContains par child then checkContained subst schema
        else .error (paramError name
          (" (" ++ child ++ ") must be within " ++ parent ++ " (" ++ par ++ ")"))
      | _, _ => checkContained subst schema

/-- A value whose parameter the schema does not know. -/
def unknownParam (schema : Schema) (params : Params) : Option Text :=
  params.keys.find? fun name =>
    !schema.any (fun s => s.1 = name) && decide (name ≠ ("prior_route_map" : Text))

/-- `validate_and_expand`. -/
def validateAndExpand (schema : Schema) (params : Params) : Except Text (NameMap Text) :=
  match unknownParam schema params with
  | some name => .error (("unknown parameter '" : Text) ++ name ++ "'")
  | none => do
    let values ← expandParams params schema
    checkContained (substOf values) schema
    .ok (substOf values)

/-! ### Templates -/

/-- `verification_json`. -/
structure Verification where
  command : Option Text := none
  expect : Option Text := none
  reject : Option Text := none

/-- `Template`. Of its plan and its verification the texts are kept. -/
structure Template where
  name : Text
  providerType : Text := "device_cli"
  schema : Schema
  configMode : Bool := true
  apply : List Text
  execAfter : List Text := []
  verification : Verification

/-- The rest of a command: behind an open brace if there is a key, and else outside. -/
def substituteFrom (subst : NameMap Text) : Option Text → Text → Except Text Text
  | none, [] => .ok []
  | some _, [] => .error "unbalanced '\x7b' in template command"
  | none, c :: cs =>
    if c = '\x7b' then substituteFrom subst (some []) cs
    else do
      let rest ← substituteFrom subst none cs
      .ok (c :: rest)
  | some key, c :: cs =>
    if c = '\x7d' then do
      let value ← okOr (("unresolved parameter '\x7b" : Text) ++ key ++ "\x7d'") subst[key]?
      let rest ← substituteFrom subst none cs
      .ok (value ++ rest)
    else substituteFrom subst (some (key ++ [c])) cs

/-- `substitute`. -/
def substitute (template : Text) (subst : NameMap Text) : Except Text Text :=
  substituteFrom subst none template

/-- Several commands. -/
def substituteAll (subst : NameMap Text) : List Text → Except Text (List Text)
  | [] => .ok []
  | c :: commands => do
    let c ← substitute c subst
    let commands ← substituteAll subst commands
    .ok (c :: commands)

/-- `VerifyStep`. -/
structure VerifyStep where
  command : Text
  expect : Option Text
  reject : Option Text
deriving DecidableEq

/-- `subst_opt`, without the texts that are blank. -/
def substOpt (subst : NameMap Text) : Option Text → Except Text (Option Text)
  | none => .ok none
  | some s => do
    let value ← substitute s subst
    .ok (if trim value = [] then none else some value)

/-- The verification of a plan. -/
def renderVerification (subst : NameMap Text) (v : Verification) :
    Except Text (Option VerifyStep) :=
  match v.command with
  | none => .ok none
  | some command => do
    let command ← substitute command subst
    if !startsWith "show " (trimStart command) then
      .error "template verification command must be read-only 'show'"
    else do
      let expect ← substOpt subst v.expect
      let reject ← substOpt subst v.reject
      if expect.isNone ∧ reject.isNone then
        .error "template verification needs a non-empty expect or reject value"
      else .ok (some ⟨command, expect, reject⟩)

/-- `RenderedPlan`. -/
structure RenderedPlan where
  commands : List Text
  verify : Option VerifyStep
  /-- `sequence_pending`: a command still carries the place of a sequence number. -/
  sequencePending : Bool
deriving DecidableEq

/-- `render`. -/
def render (t : Template) (params : Params) : Except Text RenderedPlan :=
  if t.providerType ≠ ("device_cli" : Text) then
    .error "preview is only supported for device_cli templates"
  else do
    let subst ← validateAndExpand t.schema params
    if t.apply = [] then .error "template plan has an empty apply command list"
    else do
      let apply ← substituteAll subst t.apply
      let execAfter ← substituteAll subst t.execAfter
      let commands := (if t.configMode then [("configure terminal" : Text)] else []) ++ apply ++
        (if t.configMode then [("end" : Text)] else []) ++ execAfter
      let verify ← renderVerification subst t.verification
      .ok ⟨commands, verify, commands.any fun c => contains deferredSequence c⟩

/-- `SEQUENCE_PARAM`. -/
def sequenceParam : Text := "sequence"

/-- `render_with_sequence`. -/
def renderWithSequence (t : Template) (params : Params) (sequence : ℕ) : Except Text RenderedPlan :=
  do
  let plan ← render t (params.insert sequenceParam (.string (natText sequence)))
  if plan.sequencePending then
    .error (("template '" : Text) ++ t.name ++ "' left a prefix-list sequence unresolved")
  else .ok plan

/-! ### Where a value comes from -/

variable {schema : Schema} {params : Params} {subst : NameMap Text} {name key value : Text}
  {spec : ParamSpec}

theorem getElem?_foldl_insert (values : List (Text × Text)) (subst : NameMap Text)
    (h : (values.foldl (fun subst v => subst.insert v.1 v.2) subst)[key]? = some value) :
    (key, value) ∈ values ∨ subst[key]? = some value := by
  induction values generalizing subst with
  | nil => exact Or.inr h
  | cons v values ih =>
    rcases ih _ h with hmem | hget
    · exact Or.inl (List.mem_cons_of_mem _ hmem)
    · rw [Std.TreeMap.getElem?_insert] at hget
      split at hget
      · rename_i heq
        cases hget
        exact Or.inl (by simp [← Std.LawfulEqCmp.eq_of_compare heq])
      · exact Or.inr hget

/-- A value of the map is one of the values it was made of. -/
theorem mem_of_getElem?_substOf {values : List (Text × Text)}
    (h : (substOf values)[key]? = some value) :
    (key, value) ∈ values := by
  rcases getElem?_foldl_insert values ∅ h with hmem | hget
  · exact hmem
  · simp at hget

theorem exists_spec_of_expandParams {values : List (Text × Text)}
    (h : expandParams params schema = .ok values)
    {v : Text × Text} (hv : v ∈ values) : ∃ name spec, (name, spec) ∈ schema ∧ ∃ here,
      expandParam name spec params[name]? = .ok here ∧ v ∈ here := by
  induction schema generalizing values with
  | nil =>
    cases h
    exact absurd hv List.not_mem_nil
  | cons s schema ih =>
    obtain ⟨here, hhere, h⟩ := bind_eq_ok.mp h
    obtain ⟨rest, hrest, h⟩ := bind_eq_ok.mp h
    cases h
    rcases List.mem_append.mp hv with hv | hv
    · exact ⟨s.1, s.2, List.mem_cons_self, here, hhere, hv⟩
    · obtain ⟨name, spec, hmem, hvalue⟩ := ih hrest hv
      exact ⟨name, spec, List.mem_cons_of_mem _ hmem, hvalue⟩

/-- **A value comes from one parameter of the schema.** -/
theorem exists_spec_of_validateAndExpand (h : validateAndExpand schema params = .ok subst)
    (hget : subst[key]? = some value) : ∃ name spec, (name, spec) ∈ schema ∧ ∃ here,
      expandParam name spec params[name]? = .ok here ∧ (key, value) ∈ here := by
  unfold validateAndExpand at h
  split at h
  · cases h
  · obtain ⟨values, hvalues, h⟩ := bind_eq_ok.mp h
    obtain ⟨-, -, h⟩ := bind_eq_ok.mp h
    cases h
    exact exists_spec_of_expandParams hvalues (mem_of_getElem?_substOf hget)

/-! ### What the values of a type are -/

/-- The values a parameter of a type may stand for. -/
inductive Expands (name : Text) (spec : ParamSpec) : Text → Text → Prop
  | ip (h : spec.type = .ip) (ip : Ipv4.Addr) : Expands name spec name (Ipv4.addrText ip)
  | asn (h : spec.type = .asn) (n : ℕ) (hn : n ≤ maxU32) : Expands name spec name (natText n)
  | int (h : spec.type = .int) (n : ℕ) (hn : n ≤ maxU32) : Expands name spec name (natText n)
  | seq (h : spec.type = .seq) (n : ℕ) (hn : minSeq ≤ n ∧ n ≤ maxSeq) :
      Expands name spec name (natText n)
  | deferred (h : spec.type = .seq) : Expands name spec name deferredSequence
  | cidr4 (h : spec.type = .cidr false) (a : Ipv4.Addr) (n : ℕ) (hn : n ≤ 32) {k v : Text}
      (hmem : (k, v) ∈ expandV4 name (a &&& Ipv4.mask n) n) : Expands name spec k v
  | cidr6 (h : spec.type = .cidr true) (a : Ipv6.Addr) (n : ℕ) (hn : n ≤ 128) {k v : Text}
      (hmem : (k, v) ∈ expandV6 name (a &&& Ipv6.mask n) n) : Expands name spec k v
  | string (h : spec.type = .string) (v : Text) (hws : NoWs v)
      (hallowed : ∀ allowed, spec.allowed = some allowed → v ∈ allowed) : Expands name spec name v

theorem of_parseUnsigned {max n : ℕ} {s : Text} (h : parseUnsigned max s = some n) : n ≤ max := by
  unfold parseUnsigned parseDigits at h
  split at h
  · rename_i hdigits
    cases h
    exact hdigits.2.2
  · cases h

theorem of_parseCidrV4 {s : Text} {net : Ipv4.Addr} {n : ℕ} (h : parseCidrV4 s = .ok (net, n)) :
    n ≤ 32 ∧ ∃ a, net = a &&& Ipv4.mask n := by
  obtain ⟨⟨ip, len⟩, -, h⟩ := bind_eq_ok.mp h
  obtain ⟨a, -, h⟩ := bind_eq_ok.mp h
  obtain ⟨m, -, h⟩ := bind_eq_ok.mp h
  split at h
  · cases h
  · rename_i hm
    cases h
    exact ⟨by omega, a, rfl⟩

theorem of_parseCidrV6 {s : Text} {net : Ipv6.Addr} {n : ℕ} (h : parseCidrV6 s = .ok (net, n)) :
    n ≤ 128 ∧ ∃ a, net = a &&& Ipv6.mask n := by
  obtain ⟨⟨ip, len⟩, -, h⟩ := bind_eq_ok.mp h
  obtain ⟨a, -, h⟩ := bind_eq_ok.mp h
  obtain ⟨m, -, h⟩ := bind_eq_ok.mp h
  split at h
  · cases h
  · rename_i hm
    cases h
    exact ⟨by omega, a, rfl⟩

theorem aboutParam_eq_ok {α : Type} {x : Except Text α} {a : α} :
    aboutParam name x = .ok a ↔ x = .ok a := by
  cases x <;> simp [aboutParam]

/-- **What a text given for a parameter stands for.** -/
theorem expands_of_expandValue {provided : Text} {here : List (Text × Text)}
    (h : expandValue name spec provided = .ok here) (hmem : (key, value) ∈ here) :
    Expands name spec key value := by
  unfold expandValue at h
  split at h
  · rename_i htype
    obtain ⟨ip, -, h⟩ := bind_eq_ok.mp h
    cases h
    obtain ⟨rfl, rfl⟩ := Prod.mk.inj (List.mem_singleton.mp hmem)
    exact .ip htype ip
  · rename_i htype
    obtain ⟨n, hn, h⟩ := bind_eq_ok.mp h
    split at h
    · cases h
    · cases h
      obtain ⟨rfl, rfl⟩ := Prod.mk.inj (List.mem_singleton.mp hmem)
      exact .asn htype n (of_parseUnsigned (okOr_eq_ok.mp hn))
  · rename_i htype
    obtain ⟨n, hn, h⟩ := bind_eq_ok.mp h
    cases h
    obtain ⟨rfl, rfl⟩ := Prod.mk.inj (List.mem_singleton.mp hmem)
    exact .int htype n (of_parseUnsigned (okOr_eq_ok.mp hn))
  · rename_i htype
    obtain ⟨n, -, h⟩ := bind_eq_ok.mp h
    split at h
    · rename_i hn
      cases h
      obtain ⟨rfl, rfl⟩ := Prod.mk.inj (List.mem_singleton.mp hmem)
      exact .seq htype n hn
    · cases h
  · rename_i htype
    obtain ⟨⟨net, n⟩, hnet, h⟩ := bind_eq_ok.mp h
    obtain ⟨hn, a, rfl⟩ := of_parseCidrV6 (aboutParam_eq_ok.mp hnet)
    obtain ⟨-, -, h⟩ := bind_eq_ok.mp h
    cases h
    exact .cidr6 htype a n hn hmem
  · rename_i htype
    obtain ⟨⟨net, n⟩, hnet, h⟩ := bind_eq_ok.mp h
    obtain ⟨hn, a, rfl⟩ := of_parseCidrV4 (aboutParam_eq_ok.mp hnet)
    obtain ⟨-, -, h⟩ := bind_eq_ok.mp h
    cases h
    exact .cidr4 htype a n hn hmem
  · rename_i htype
    split at h
    · cases h
    · rename_i hws
      split at h
      · cases h
      · rename_i hallowed
        cases h
        obtain ⟨rfl, rfl⟩ := Prod.mk.inj (List.mem_singleton.mp hmem)
        -- a text is neither blank nor cut by a blank, and one of those allowed if there is a list
        refine .string htype _ (fun c hc => ?_) fun allowed heq => ?_
        · simp only [List.any_eq_true, not_exists, not_and] at hws
          simpa using hws c hc
        · simpa [heq] using hallowed

/-- **What a parameter stands for**, given or not. -/
theorem expands_of_expandParam {given : Option ParamValue} {here : List (Text × Text)}
    (h : expandParam name spec given = .ok here) (hmem : (key, value) ∈ here) :
    Expands name spec key value := by
  unfold expandParam at h
  split at h
  · exact expands_of_expandValue h hmem
  · split at h
    · rename_i htype
      cases h
      obtain ⟨rfl, rfl⟩ := Prod.mk.inj (List.mem_singleton.mp hmem)
      exact .deferred htype
    · split at h
      · cases h
      · cases h
        exact absurd hmem List.not_mem_nil

/-- **Every value that is put into a command stands for a parameter of the schema.** -/
theorem expands_of_validateAndExpand (h : validateAndExpand schema params = .ok subst)
    (hget : subst[key]? = some value) : ∃ s ∈ schema, Expands s.1 s.2 key value := by
  obtain ⟨name, spec, hmem, here, hhere, hvalue⟩ := exists_spec_of_validateAndExpand h hget
  exact ⟨_, hmem, expands_of_expandParam hhere hvalue⟩

theorem noWs_net4 (a : Ipv4.Addr) (n : ℕ) : NoWs (Ipv4.addrText a ++ '/' :: natText n) := by
  intro c hc
  rcases List.mem_append.mp hc with hc | hc
  · exact Ipv4.noWs_addrText a c hc
  · rcases List.mem_cons.mp hc with rfl | hc
    · rfl
    · exact noWs_natText n c hc

theorem noWs_net6 (a : Ipv6.Addr) (n : ℕ) : NoWs (Ipv6.addrText a ++ '/' :: natText n) := by
  intro c hc
  rcases List.mem_append.mp hc with hc | hc
  · exact Ipv6.noWs_addrText a c hc
  · rcases List.mem_cons.mp hc with rfl | hc
    · rfl
    · exact noWs_natText n c hc

theorem Expands.noWs (h : Expands name spec key value) : NoWs value := by
  cases h with
  | ip _ ip => exact Ipv4.noWs_addrText ip
  | asn _ n => exact noWs_natText n
  | int _ n => exact noWs_natText n
  | seq _ n => exact noWs_natText n
  | deferred => decide
  | string _ _ hws => exact hws
  | cidr4 _ a n _ hmem =>
    simp only [expandV4, List.mem_cons, List.not_mem_nil, or_false, Prod.mk.injEq] at hmem
    rcases hmem with ⟨-, rfl⟩ | ⟨-, rfl⟩ | ⟨-, rfl⟩ | ⟨-, rfl⟩
    · exact noWs_net4 _ n
    · exact Ipv4.noWs_addrText _
    · exact Ipv4.noWs_addrText _
    · exact noWs_natText n
  | cidr6 _ a n _ hmem =>
    simp only [expandV6, List.mem_cons, List.not_mem_nil, or_false, Prod.mk.injEq] at hmem
    rcases hmem with ⟨-, rfl⟩ | ⟨-, rfl⟩ | ⟨-, rfl⟩
    · exact noWs_net6 _ n
    · exact Ipv6.noWs_addrText _
    · exact noWs_natText n

/-- **A value is a single word**, so it cannot carry a second command. -/
theorem noWs_of_validateAndExpand (h : validateAndExpand schema params = .ok subst)
    (hget : subst[key]? = some value) : NoWs value := by
  obtain ⟨s, -, hexpands⟩ := expands_of_validateAndExpand h hget
  exact hexpands.noWs

/-! ### Filling in -/

/-- What stands outside the braces is kept. -/
theorem substituteFrom_append {text : Text} (htext : '\x7b' ∉ text) {rest out : Text}
    (h : substituteFrom subst none rest = .ok out) :
    substituteFrom subst none (text ++ rest) = .ok (text ++ out) := by
  induction text with
  | nil => exact h
  | cons c text ih =>
    have hc : c ≠ '\x7b' := fun heq => htext (by simp [heq])
    rw [List.cons_append, substituteFrom, if_neg hc,
      ih fun hmem => htext (List.mem_cons_of_mem c hmem)]
    rfl

/-- What stands in braces is replaced by its value. -/
theorem substituteFrom_key {seen : Text} (hkey : '\x7d' ∉ key)
    (hget : subst[seen ++ key]? = some value)
    {rest out : Text} (h : substituteFrom subst none rest = .ok out) :
    substituteFrom subst (some seen) (key ++ '\x7d' :: rest) = .ok (value ++ out) := by
  induction key generalizing seen with
  | nil =>
    rw [List.append_nil] at hget
    rw [List.nil_append, substituteFrom, if_pos rfl, hget, h]
    rfl
  | cons c key ih =>
    have hc : c ≠ '\x7d' := fun heq => hkey (by simp [heq])
    rw [List.cons_append, substituteFrom, if_neg hc]
    refine ih (fun hmem => hkey (List.mem_cons_of_mem c hmem)) ?_
    rwa [List.append_assoc]

/-- A text, a parameter in braces, and the rest. -/
theorem substituteFrom_param (text key : Text) (htext : '\x7b' ∉ text) (hkey : '\x7d' ∉ key)
    (hget : subst[key]? = some value) {rest out : Text}
    (h : substituteFrom subst none rest = .ok out) :
    substituteFrom subst none (text ++ '\x7b' :: (key ++ '\x7d' :: rest)) =
      .ok (text ++ (value ++ out)) := by
  refine substituteFrom_append htext ?_
  rw [substituteFrom, if_pos rfl]
  exact substituteFrom_key hkey hget h

/-! ### A parameter more -/

theorem expandParams_append {more : Schema} {values : List (Text × Text)}
    (h : expandParams params (schema ++ more) = .ok values) :
    ∃ here rest, expandParams params schema = .ok here ∧
      expandParams params more = .ok rest ∧ values = here ++ rest := by
  induction schema generalizing values with
  | nil => exact ⟨[], values, rfl, h, rfl⟩
  | cons s schema ih =>
    obtain ⟨first, hfirst, h⟩ := bind_eq_ok.mp h
    obtain ⟨others, hothers, h⟩ := bind_eq_ok.mp h
    obtain ⟨here, rest, hhere, hrest, rfl⟩ := ih hothers
    refine ⟨first ++ here, rest, bind_eq_ok.mpr ⟨first, hfirst, bind_eq_ok.mpr ⟨here, hhere, rfl⟩⟩,
      hrest, ?_⟩
    rw [← Except.ok.inj h, List.append_assoc]

/-- A value that is given for a parameter of another name changes nothing. -/
theorem expandParams_insert {v : ParamValue} (hname : ∀ s ∈ schema, s.1 ≠ name) :
    expandParams (params.insert name v) schema = expandParams params schema := by
  induction schema with
  | nil => rfl
  | cons s schema ih =>
    have hs : compare name s.1 ≠ .eq := fun heq =>
      hname s List.mem_cons_self (Std.LawfulEqCmp.eq_of_compare heq).symm
    rw [expandParams, expandParams, ih fun a ha => hname a (List.mem_cons_of_mem s ha),
      Std.TreeMap.getElem?_insert, if_neg hs]

theorem getElem?_substOf_append {values more : List (Text × Text)} (h : ∀ v ∈ more, v.1 ≠ key) :
    (substOf (values ++ more))[key]? = (substOf values)[key]? := by
  rw [substOf, List.foldl_append]
  change (more.foldl (fun subst v => subst.insert v.1 v.2) (substOf values))[key]? = _
  generalize substOf values = subst
  induction more generalizing subst with
  | nil => rfl
  | cons v more ih =>
    have hv : compare v.1 key ≠ .eq :=
      fun heq => h v List.mem_cons_self (Std.LawfulEqCmp.eq_of_compare heq)
    rw [List.foldl_cons, ih (fun a ha => h a (List.mem_cons_of_mem v ha)),
      Std.TreeMap.getElem?_insert, if_neg hv]

theorem getElem?_substOf_concat {values : List (Text × Text)} :
    (substOf (values ++ [(key, value)]))[key]? = some value := by
  rw [substOf, List.foldl_append]
  simp

end Rerouter
