import Rerouter.AttackedHost
import Rerouter.DriftAudit
import Rerouter.ProjectedList

/-!
# The route to an attacked host

An action of a rule may leave the network open that it makes a route for. It is stored with the
parameters that passed their checks for a network of the documentation (`add_action` of
`api/rules.rs`), and when the rule fires, the host its flows are about is put in, in the template
for its family (`prepare_action` of `reroute/flow_target.rs`).

What was checked for one network then holds for another one of maybe another family: wherever a
host is found and the rows of the templates are read, the action is rendered, to a route for this
host and no other address, in the announced space of the router, and what undoes it takes the same
route away (**`Rerouter.FlowTarget.prepared`**).
-/

namespace Rerouter.FlowTarget

open Text Rerouter.Flow Arming

/-! ### Templates and their siblings -/

/-- A row of `reroute_templates`. -/
structure StoredTemplate where
  id : ℕ
  template : Template
  v6Sibling : Option ℕ
  rollback : Option ℕ

/-- `templates::load`, by the id, at the time the rule fires. A row that cannot be read then is
none. -/
abbrev Templates := ℕ → Option StoredTemplate

/-- `AutoTargetInfo`. -/
structure AutoTargetInfo where
  cidr : Text
  lowConfidence : Bool
  note : Text
deriving DecidableEq

/-- `PreparedAction::Ready`. -/
structure Ready where
  template : StoredTemplate
  params : Params
  autoTarget : Option AutoTargetInfo

/-- The note of a target. -/
def autoTargetNote (r : ResolvedTarget) : Text :=
  ("auto-target " : Text) ++ r.cidr ++ " (~" ++ natText r.estBytes ++ " bytes, ~" ++
    natText r.estPkts ++ " pkts in " ++ natText windowMinutes ++ " min" ++
    (if r.lowConfidence then (", LOW sampling confidence" : Text) else []) ++ ")"

/-- A resolution that fails is a reason to skip the action. -/
def orSkip : Except TargetError ResolvedTarget → Except Text ResolvedTarget
  | .ok r => .ok r
  | .error e => .error (("auto-target: " : Text) ++ e.message)

/-- The template of the family of a target. -/
def familyTemplate (templates : Templates) (base : StoredTemplate) (r : ResolvedTarget) :
    Except Text StoredTemplate :=
  if r.isV6 then
    match base.v6Sibling with
    | some sibling => okOr "auto-target: IPv6 sibling template is missing" (templates sibling)
    | none => .error (("auto-target: victim " : Text) ++ r.cidr ++ " is IPv6 but '" ++
        base.template.name ++ "' has no IPv6 variant")
  else .ok base

/-- `prepare_action`: an action that is ready, or the reason to skip it. -/
def prepareAction (templates : Templates) (db : Db) (now : ℕ) (sel : FlowSelector)
    (templateId nullRouteDeviceId : ℕ) (params : Params) (autoTarget : Option Text) :
    Except Text Ready := do
  let base ← okOr "template not found" (templates templateId)
  if autoTarget ≠ some flowDstHost then .ok ⟨base, params, none⟩
  else do
    let resolved ← orSkip (resolveFlowDstHost db now sel nullRouteDeviceId)
    let template ← familyTemplate templates base resolved
    .ok ⟨template, params.insert Drift.prefixParam (.string resolved.cidr),
      some ⟨resolved.cidr, resolved.lowConfidence, autoTargetNote resolved⟩⟩

/-- `resolve_rollback`: the template that undoes an action, and its parameters. -/
def resolveRollback (templates : Templates) (templateId : ℕ) (params : Params) :
    Except Text (Option (Template × Params)) := do
  let notFound (id : ℕ) : Text := ("reroute template " : Text) ++ natText id ++ " not found"
  let original ← okOr (notFound templateId) (templates templateId)
  let prior := ((params[Drift.priorRouteMapParam]?.bind ParamValue.asStr).map trim).filter
    fun s => s ≠ []
  match (if original.template.name = ("bgp_route_map_set" : Text) then prior else none) with
  | some prior => .ok (some (original.template, params.insert "route_map" (.string prior)))
  | none =>
    match original.rollback with
    | none => .ok none
    | some id => do
      let rollback ← okOr (notFound id) (templates id)
      .ok (some (rollback.template, params))

/-- `render_rollback_plan`. -/
def renderRollbackPlan (templates : Templates) (templateId : ℕ) (params : Params) :
    Option RenderedPlan :=
  match resolveRollback templates templateId params with
  | .ok (some (template, params)) => (render template params).toOption
  | _ => none

/-- The template of a route to `Null0`: with a tag or without, the one that makes it or the one that
takes it away, in either family. -/
def routeTemplate : (tagged present v6 : Bool) → Template
  | false, true, false => nullRoutePrefix
  | false, true, true => nullRoutePrefixV6
  | false, false, false => nullRouteWithdraw
  | false, false, true => nullRouteWithdrawV6
  | true, true, false => blackholePrefix
  | true, true, true => blackholePrefixV6
  | true, false, false => blackholeWithdraw
  | true, false, true => blackholeWithdrawV6

/-- **The links between these templates**, as the migrations leave them, with both rows of a link
read. -/
structure Wired (templates : Templates) : Prop where
  id : ∀ {id s}, templates id = some s → s.id = id
  /-- A name is that of one template. -/
  catalogued : ∀ {id s}, templates id = some s → s.template ∈ catalogue
  sibling : ∀ {id s tagged}, templates id = some s → s.template = routeTemplate tagged true false →
    ∃ sibling s', s.v6Sibling = some sibling ∧ templates sibling = some s' ∧
      s'.template = routeTemplate tagged true true
  rollback : ∀ {id s tagged v6}, templates id = some s → s.template = routeTemplate tagged true v6 →
    ∃ rollback s', s.rollback = some rollback ∧ templates rollback = some s' ∧
      s'.template = routeTemplate tagged false v6

/-! ### The route of a host -/

/-- What stands behind a route. -/
def tagText : Option ℕ → Text
  | none => []
  | some n => (" tag " : Text) ++ natText n

/-- A route that drops what goes to one host. -/
def nullRoute : IpAddr → Text
  | .v4 a => ("ip route " : Text) ++ (Ipv4.addrText a ++ " 255.255.255.255 Null0")
  | .v6 a => ("ipv6 route " : Text) ++ (Ipv6.addrText a ++ "/128 Null0")

/-- **The route of one host**, with its tag. -/
def hostRoute (ip : IpAddr) (tag : Option ℕ) : Text := nullRoute ip ++ tagText tag

/-- The commands of a plan that is one line. -/
def configured (line : Text) : List Text := ["configure terminal", line, "end"]

/-- The tag an action has: one that is catalogued, if its template asks for one. -/
def TagOf (tagged : Bool) (tags : List ℕ) (tag : Option ℕ) : Prop :=
  if tagged then ∃ n ∈ tags, tag = some n else tag = none

/-- **An action that is ready for a host.** -/
structure ReadyFor (templates : Templates) (db : Db) (now device : ℕ) (tagged : Bool)
    (tags : List ℕ) (r : ResolvedTarget) (ip : IpAddr) (ready : Ready) : Prop where
  /-- The template is that of its family. -/
  family : ready.template.template = routeTemplate tagged true (isIpv6 ip)
  target : ready.autoTarget = some ⟨(hostNetwork ip).text, r.lowConfidence, autoTargetNote r⟩
  /-- What is checked again before it runs holds. -/
  contained : Drift.prefixTargetIsContained now (db.inventories device) ready.template.template
    ready.params = .ok true
  /-- It is the route of the host, and what undoes it is this route with a `no`. -/
  commands : ∃ tag, TagOf tagged tags tag ∧
    (∃ plan, render ready.template.template ready.params = .ok plan ∧
      plan.commands = configured (hostRoute ip tag)) ∧
    ∃ undo, renderRollbackPlan templates ready.template.id ready.params = some undo ∧
      undo.commands = configured ("no ".toList ++ hostRoute ip tag)

/-! ### Filling in -/

variable {subst : NameMap Text} {ip : IpAddr} {tag : Option ℕ} {tagged present : Bool}
  {params stored : Params} {schema : Schema} {templates : Templates} {db : Db}
  {now device : ℕ} {r : ResolvedTarget}

/-- A text that is filled in, and behind it another one. -/
theorem substituteFrom_concat {key : Option Text} {a b x y : Text}
    (ha : substituteFrom subst key a = .ok x) (hb : substituteFrom subst none b = .ok y) :
    substituteFrom subst key (a ++ b) = .ok (x ++ y) := by
  induction a generalizing key x with
  | nil =>
    cases key with
    | none =>
      obtain rfl := Except.ok.inj ha
      exact hb
    | some key => cases ha
  | cons c a ih =>
    cases key with
    | none =>
      rw [substituteFrom] at ha
      rw [List.cons_append, substituteFrom]
      split_ifs at ha ⊢ with hopen
      -- outside of braces: an opening brace starts a key, all else is copied
      · exact ih ha
      · obtain ⟨rest, hrest, ha⟩ := bind_eq_ok.mp ha
        obtain rfl := Except.ok.inj ha
        exact bind_eq_ok.mpr ⟨_, ih hrest, rfl⟩
    | some key =>
      rw [substituteFrom] at ha
      rw [List.cons_append, substituteFrom]
      -- inside of braces: the closing one ends the key, and its value is put in
      split_ifs at ha ⊢ with hclose
      · obtain ⟨value, hvalue, ha⟩ := bind_eq_ok.mp ha
        obtain ⟨rest, hrest, ha⟩ := bind_eq_ok.mp ha
        obtain rfl := Except.ok.inj ha
        refine bind_eq_ok.mpr ⟨value, hvalue, bind_eq_ok.mpr ⟨_, ih hrest, ?_⟩⟩
        rw [List.append_assoc]
      · exact ih ha

/-- A text without parameters is as it stands. -/
theorem substitute_plain {text : Text} (h : '\x7b' ∉ text) : substitute text subst = .ok text := by
  have hnil : substituteFrom subst none [] = .ok [] := rfl
  have htext := substituteFrom_append h hnil
  rwa [List.append_nil] at htext

/-- The values a host and a tag stand for. -/
structure Fills (subst : NameMap Text) (ip : IpAddr) (tag : Option ℕ) : Prop where
  text : subst[("prefix" : Text)]? = some (hostNetwork ip).text
  net : subst[("prefix_net" : Text)]? = some (hostText ip)
  mask : isIpv6 ip = false → subst[("prefix_mask" : Text)]? = some "255.255.255.255"
  tag : ∀ n, tag = some n → subst[("tag" : Text)]? = some (natText n)

/-- What stands behind a route in the templates. -/
def tagSource (tagged : Bool) : Text := if tagged then " tag {tag}" else []

/-- The route in the templates of a family. -/
def routeSource (v6 : Bool) : Text :=
  if v6 then "ipv6 route \x7bprefix\x7d Null0" else "ip route {prefix_net} {prefix_mask} Null0"

theorem substitute_tagSource (hfills : Fills subst ip tag) (htag : tagged = tag.isSome) :
    substitute (tagSource tagged) subst = .ok (tagText tag) := by
  subst htag
  cases tag with
  | none => rfl
  | some n =>
    have hnil : substituteFrom subst none [] = .ok [] := rfl
    have h := substituteFrom_param " tag " "tag" (by decide) (by decide) (hfills.tag n rfl) hnil
    rwa [List.append_nil] at h

theorem routeSource_v4 :
    routeSource false =
      ("ip route " : Text) ++ '\x7b' :: (("prefix_net" : Text) ++
        '\x7d' :: ((" " : Text) ++ '\x7b' :: (("prefix_mask" : Text) ++
          '\x7d' :: (" Null0" : Text)))) := by
  decide

theorem routeSource_v6 :
    routeSource true =
      ("ipv6 route " : Text) ++ '\x7b' :: (("prefix" : Text) ++
        '\x7d' :: (" Null0" : Text)) := by
  decide

/-- The route of a template, filled in for a host. -/
theorem substitute_routeSource (hfills : Fills subst ip tag) :
    substitute (routeSource (isIpv6 ip)) subst = .ok (nullRoute ip) := by
  have hnull : substituteFrom subst none (" Null0" : Text) = .ok (" Null0" : Text) :=
    substitute_plain (by decide)
  cases ip with
  | v4 a =>
    have hmask := substituteFrom_param " " "prefix_mask" (by decide) (by decide)
      (hfills.mask rfl) hnull
    have hroute := substituteFrom_param "ip route " "prefix_net" (by decide) (by decide)
      hfills.net hmask
    rw [isIpv6, routeSource_v4, substitute, hroute]
    rfl
  | v6 a =>
    have hroute := substituteFrom_param "ipv6 route " "prefix" (by decide) (by decide)
      hfills.text hnull
    have hlength : ('/' :: natText 128) ++ (" Null0" : Text) = ("/128 Null0" : Text) := by decide
    have htext : (hostNetwork (.v6 a)).text ++ (" Null0" : Text) =
        Ipv6.addrText a ++ ("/128 Null0" : Text) := by
      rw [hostNetwork, Network.text, List.append_assoc, hlength]
    rw [isIpv6, routeSource_v6, substitute, hroute, htext]
    rfl

theorem substitute_line (hfills : Fills subst ip tag) (htag : tagged = tag.isSome) {front : Text}
    (hfront : '\x7b' ∉ front) :
    substitute (front ++ (routeSource (isIpv6 ip) ++ tagSource tagged)) subst =
      .ok (front ++ hostRoute ip tag) :=
  substituteFrom_append hfront
    (substituteFrom_concat (substitute_routeSource hfills) (substitute_tagSource hfills htag))

/-- A route is not blank. -/
theorem trim_hostRoute (ip : IpAddr) (tag : Option ℕ) : trim (hostRoute ip tag) ≠ [] := by
  rw [Ne, trim_eq_nil]
  cases ip with
  | v4 a =>
    have hwords := splitWhitespace_append_space (w := "ip".toList) (by decide) (by decide)
      ("route ".toList ++ (Ipv4.addrText a ++ " 255.255.255.255 Null0".toList) ++ tagText tag)
    exact fun h => List.cons_ne_nil _ _ (hwords.symm.trans h)
  | v6 a =>
    have hwords := splitWhitespace_append_space (w := "ipv6".toList) (by decide) (by decide)
      ("route ".toList ++ (Ipv6.addrText a ++ "/128 Null0".toList) ++ tagText tag)
    exact fun h => List.cons_ne_nil _ _ (hwords.symm.trans h)

/-- What stands in front of the route in the template that takes it away. -/
def noText (present : Bool) : Text := if present then [] else "no "

/-- The schema of a route. -/
def routeSchema (tagged v6 : Bool) : Schema :=
  ("prefix", if v6 then destinationV6 else destinationV4) ::
    if tagged then [("tag", rtbhTag)] else []

/-- The network parameter of a family. -/
def destination (v6 : Bool) : ParamSpec := if v6 then destinationV6 else destinationV4

/-- What the templates of the routes are made of. -/
structure IsRoute (tagged present v6 : Bool) (t : Template) : Prop where
  provider : t.providerType = "device_cli"
  schema : t.schema = routeSchema tagged v6
  config : t.configMode = true
  line : t.apply = [noText present ++ (routeSource v6 ++ tagSource tagged)]
  after : t.execAfter = []
  command : t.verification.command =
    some ("show running-config | include ^".toList ++ (routeSource v6 ++ tagSource tagged) ++ "$")
  expect : t.verification.expect =
    if present then some (routeSource v6 ++ tagSource tagged) else none
  reject : t.verification.reject =
    if present then none else some (routeSource v6 ++ tagSource tagged)

theorem isRoute_v4 (name : Text) (tagged present : Bool) : IsRoute tagged present false
    (routeTemplateV4 name (noText present) (tagSource tagged) tagged present) where
  provider := rfl
  schema := by cases tagged <;> rfl
  config := rfl
  line := congrArg (fun line => [line]) (List.append_assoc _ _ _)
  after := rfl
  command := by
    have hline :
        ("show running-config | include ^ip route {prefix_net} {prefix_mask} Null0" : Text) =
        "show running-config | include ^".toList ++ routeSource false := by
      decide
    refine congrArg some ((congrArg (· ++ tagSource tagged ++ "$".toList) hline).trans ?_)
    rw [List.append_assoc ("show running-config | include ^".toList)]
  expect := rfl
  reject := rfl

theorem isRoute_v6 (name : Text) (tagged present : Bool) : IsRoute tagged present true
    (routeTemplateV6 name (noText present) (tagSource tagged) tagged present) where
  provider := rfl
  schema := by cases tagged <;> rfl
  config := rfl
  line := congrArg (fun line => [line]) (List.append_assoc _ _ _)
  after := rfl
  command := by
    have hline : ("show running-config | include ^ipv6 route \x7bprefix\x7d Null0" : Text) =
        "show running-config | include ^".toList ++ routeSource true := by
      decide
    refine congrArg some ((congrArg (· ++ tagSource tagged ++ "$".toList) hline).trans ?_)
    rw [List.append_assoc ("show running-config | include ^".toList)]
  expect := rfl
  reject := rfl

theorem isRoute (tagged present v6 : Bool) :
    IsRoute tagged present v6 (routeTemplate tagged present v6) := by
  cases v6 with
  | false => cases tagged <;> cases present <;> exact isRoute_v4 _ _ _
  | true => cases tagged <;> cases present <;> exact isRoute_v6 _ _ _

/-- The verification of a route is filled in. -/
theorem exists_verify {t : Template} (ht : IsRoute tagged present (isIpv6 ip) t)
    (hfills : Fills subst ip tag) (htag : tagged = tag.isSome) :
    ∃ verify, renderVerification subst t.verification = .ok verify := by
  have hline : substitute ([] ++ (routeSource (isIpv6 ip) ++ tagSource tagged)) subst =
      .ok ([] ++ hostRoute ip tag) :=
    substitute_line hfills htag (by decide)
  have hcommand : substitute ("show running-config | include ^".toList ++
      (routeSource (isIpv6 ip) ++ tagSource tagged) ++ "$") subst =
        .ok ("show running-config | include ^".toList ++ hostRoute ip tag ++ "$".toList) :=
    substituteFrom_concat (substitute_line hfills htag (by decide)) (substitute_plain (by decide))
  have hshow : startsWith "show " (trimStart ("show running-config | include ^".toList ++
      hostRoute ip tag ++ "$".toList)) = true := by
    have hstart : trimStart ("show running-config | include ^".toList ++ hostRoute ip tag ++
        "$".toList) = "show running-config | include ^".toList ++ hostRoute ip tag ++ "$".toList :=
      List.dropWhile_cons_of_neg (by decide)
    rw [hstart, startsWith_iff, List.append_assoc]
    exact List.IsPrefix.trans (by decide) (List.prefix_append _ _)
  have hopt : substOpt subst (some (routeSource (isIpv6 ip) ++ tagSource tagged)) =
      .ok (some (hostRoute ip tag)) := by
    refine bind_eq_ok.mpr ⟨_, hline, ?_⟩
    rw [List.nil_append, if_neg (trim_hostRoute ip tag)]
  rw [renderVerification, ht.command, ht.expect, ht.reject]
  dsimp only
  rw [hcommand, ok_bind, hshow]
  cases present with
  | true => exact ⟨_, bind_eq_ok.mpr ⟨_, hopt, bind_eq_ok.mpr ⟨none, rfl, rfl⟩⟩⟩
  | false => exact ⟨_, bind_eq_ok.mpr ⟨none, rfl, bind_eq_ok.mpr ⟨_, hopt, rfl⟩⟩⟩

/-- **A template of a route is rendered**, to the route of the host. -/
theorem render_route {t : Template} (ht : IsRoute tagged present (isIpv6 ip) t)
    (hsubst : validateAndExpand t.schema params = .ok subst) (hfills : Fills subst ip tag)
    (htag : tagged = tag.isSome) : ∃ plan, render t params = .ok plan ∧
      plan.commands = configured (noText present ++ hostRoute ip tag) := by
  obtain ⟨verify, hverify⟩ := exists_verify ht hfills htag
  have hno : '\x7b' ∉ noText present := by cases present <;> decide
  have happly : substituteAll subst t.apply = .ok [noText present ++ hostRoute ip tag] := by
    rw [ht.line, substituteAll, substitute_line hfills htag hno]
    rfl
  rw [render, if_neg (not_not.mpr ht.provider), hsubst, ok_bind, if_neg (by rw [ht.line]; simp),
    happly, ok_bind, ht.after, ht.config]
  exact ⟨_, bind_eq_ok.mpr ⟨[], rfl, bind_eq_ok.mpr ⟨verify, hverify, rfl⟩⟩, rfl⟩

/-! ### A host for the network -/

/-- Parameters with a host for the network. -/
def hosted (params : Params) (ip : IpAddr) : Params :=
  (params.erase Drift.prefixParam).insert Drift.prefixParam (.string (hostNetwork ip).text)

theorem getElem?_hosted (params : Params) (ip : IpAddr) (name : Text) : (hosted params ip)[name]? =
    if name = Drift.prefixParam then some (.string (hostNetwork ip).text) else params[name]? := by
  rw [hosted, Std.TreeMap.getElem?_insert, Std.TreeMap.getElem?_erase]
  by_cases hname : name = Drift.prefixParam
  · rw [hname, if_pos Std.ReflCmp.compare_self, if_pos rfl]
  · have hne : compare Drift.prefixParam name ≠ .eq := fun heq =>
      hname (Std.LawfulEqCmp.eq_of_compare heq).symm
    rw [if_neg hne, if_neg hne, if_neg hname]

/-- The network of a host is not cut. -/
theorem cut_hostNetwork (ip : IpAddr) : (hostNetwork ip).cut = hostNetwork ip := by
  cases ip with
  | v4 a =>
    have hmask : Ipv4.mask 32 = BitVec.allOnes 32 := by decide
    rw [hostNetwork, Network.cut, hmask, BitVec.and_allOnes]
  | v6 a =>
    have hmask : Ipv6.mask 128 = BitVec.allOnes 128 := by decide
    rw [hostNetwork, Network.cut, hmask, BitVec.and_allOnes]

/-- The text of a host is taken as it is given. -/
theorem paramText_host (spec : ParamSpec) (ip : IpAddr) :
    paramText spec (some (.string (hostNetwork ip).text)) = some (hostNetwork ip).text := by
  have hws : NoWs (hostNetwork ip).text := by
    cases ip with
    | v4 a => exact noWs_net4 a 32
    | v6 a => exact noWs_net6 a 128
  have hne : (hostNetwork ip).text ≠ [] := by cases ip <;> simp [hostNetwork, Network.text]
  rw [paramText, trim_of_noWs hws, if_neg hne]

/-- What a host is given as stands for itself. -/
theorem expandParam_host (ip : IpAddr) : expandParam Drift.prefixParam (destination (isIpv6 ip))
    (some (.string (hostNetwork ip).text)) = .ok ((hostNetwork ip).values Drift.prefixParam) := by
  have hread := readCidr_text (fits_hostNetwork ip)
  have hcut := cut_hostNetwork ip
  rw [expandParam, paramText_host]
  cases ip with
  | v4 a =>
    have hparse : parseCidrV4 (hostNetwork (.v4 a)).text = .ok (a, 32) :=
      parseCidrV4_eq_ok.mpr ⟨a, hread, (Network.v4.inj hcut).1.symm⟩
    exact bind_eq_ok.mpr ⟨(a, 32), by rw [hparse]; rfl, rfl⟩
  | v6 a =>
    have hparse : parseCidrV6 (hostNetwork (.v6 a)).text = .ok (a, 128) :=
      parseCidrV6_eq_ok.mpr ⟨a, hread, (Network.v6.inj hcut).1.symm⟩
    exact bind_eq_ok.mpr ⟨(a, 128), by rw [hparse]; rfl, rfl⟩

theorem sorted_routeSchema (tagged v6 : Bool) :
    (routeSchema tagged v6).Pairwise fun a b => a.1 < b.1 := by
  cases tagged <;> cases v6 <;> decide

theorem mem_routeSchema {tagged v6 : Bool} {s : Text × ParamSpec} : s ∈ routeSchema tagged v6 ↔
    s = (Drift.prefixParam, destination v6) ∨ tagged = true ∧ s = (Drift.tagParam, rtbhTag) := by
  cases tagged with
  | false =>
    have hone : routeSchema false v6 = [(Drift.prefixParam, destination v6)] := rfl
    rw [hone, List.mem_singleton]
    exact ⟨Or.inl, fun h => h.resolve_right fun h => Bool.false_ne_true h.1⟩
  | true =>
    have htwo : routeSchema true v6 =
      [(Drift.prefixParam, destination v6), (Drift.tagParam, rtbhTag)] := rfl
    rw [htwo, List.mem_cons, List.mem_singleton]
    exact or_congr_right ⟨fun h => ⟨rfl, h⟩, And.right⟩

/-- The tag some parameters give, as it prints. -/
def GivesTag (params : Params) (tag : Option ℕ) : Prop :=
  ∀ n, tag = some n → params[Drift.tagParam]? = some (.string (natText n))

/-- What a tag stands for. -/
theorem eq_of_expandParam_tag {n : ℕ} {here : List (Text × Text)}
    (h : expandParam Drift.tagParam rtbhTag (some (.string (natText n))) = .ok here) :
    here = [(Drift.tagParam, natText n)] := by
  have htext : paramText rtbhTag (some (.string (natText n))) = some (natText n) := by
    rw [paramText, trim_of_noWs (noWs_natText n), if_neg (natText_ne_nil n)]
  rw [expandParam, htext] at h
  obtain ⟨m, hm, h⟩ := bind_eq_ok.mp h
  split at h
  · cases h
  · rw [← Except.ok.inj h, eq_of_parseUnsigned_natText (okOr_eq_ok.mp hm)]

/-- The values of the parameters of a route, for a host. -/
theorem expandParams_host {q : Params} {before : NameMap Text}
    (hq : validateAndExpand (routeSchema tagged false) q = .ok before) (ip : IpAddr) :
    ∃ values, expandParams (hosted q ip) (routeSchema tagged (isIpv6 ip)) = .ok values := by
  have hprefix : expandParam ("prefix" : Text) (destination (isIpv6 ip))
      (hosted q ip)[("prefix" : Text)]? = .ok ((hostNetwork ip).values Drift.prefixParam) := by
    rw [getElem?_hosted, if_pos (by decide)]
    exact expandParam_host ip
  obtain ⟨-, values, hvalues, -, -⟩ := exists_values_of_validateAndExpand hq
  cases tagged with
  | false => exact ⟨_, bind_eq_ok.mpr ⟨_, hprefix, bind_eq_ok.mpr ⟨[], rfl, rfl⟩⟩⟩
  | true =>
    obtain ⟨_, -, hvalues⟩ := bind_eq_ok.mp hvalues
    obtain ⟨_, hrest, -⟩ := bind_eq_ok.mp hvalues
    obtain ⟨here, hhere, -⟩ := bind_eq_ok.mp hrest
    have htag : expandParam ("tag" : Text) rtbhTag (hosted q ip)[("tag" : Text)]? = .ok here := by
      rw [getElem?_hosted, if_neg (by decide)]
      exact hhere
    exact ⟨_, bind_eq_ok.mpr ⟨_, hprefix, bind_eq_ok.mpr ⟨_,
      bind_eq_ok.mpr ⟨_, htag, bind_eq_ok.mpr ⟨[], rfl, rfl⟩⟩, rfl⟩⟩⟩

theorem unknownParam_hosted {q : Params} {before : NameMap Text}
    (hq : validateAndExpand (routeSchema tagged false) q = .ok before) (ip : IpAddr) :
    unknownParam (routeSchema tagged (isIpv6 ip)) (hosted q ip) = none := by
  have hknown := Drift.unknownParam_eq_none.mp (exists_values_of_validateAndExpand hq).1
  rw [Drift.unknownParam_eq_none]
  intro name given hgiven
  rw [getElem?_hosted] at hgiven
  split_ifs at hgiven with hname
  · exact Or.inr ⟨_, mem_routeSchema.mpr (Or.inl (by rw [hname]))⟩
  · refine (hknown name given hgiven).imp_right fun ⟨spec, hspec⟩ => ?_
    rcases mem_routeSchema.mp hspec with heq | htag
    · exact absurd (Prod.mk.inj heq).1 hname
    · exact ⟨spec, mem_routeSchema.mpr (Or.inr htag)⟩

/-- **What was validated for one network is valid for a host**, of either family. -/
theorem validate_host {q : Params} {before : NameMap Text}
    (hq : validateAndExpand (routeSchema tagged false) q = .ok before) (htag : tagged = tag.isSome)
    (hgives : GivesTag q tag) (ip : IpAddr) :
    ∃ subst, validateAndExpand (routeSchema tagged (isIpv6 ip)) (hosted q ip) = .ok subst ∧
      Fills subst ip tag := by
  obtain ⟨values, hvalues⟩ := expandParams_host hq ip
  have hcontained : checkContained (substOf values) (routeSchema tagged (isIpv6 ip)) = .ok () := by
    cases tagged <;> cases isIpv6 ip <;> rfl
  have hsubst : validateAndExpand (routeSchema tagged (isIpv6 ip)) (hosted q ip) =
      .ok (substOf values) := by
    rw [validateAndExpand, unknownParam_hosted hq ip]
    exact bind_eq_ok.mpr ⟨values, hvalues, bind_eq_ok.mpr ⟨(), hcontained, rfl⟩⟩
  have hsorted := sorted_routeSchema tagged (isIpv6 ip)
  have hmem : (Drift.prefixParam, destination (isIpv6 ip)) ∈ routeSchema tagged (isIpv6 ip) :=
    mem_routeSchema.mpr (Or.inl rfl)
  have hhere : expandParam Drift.prefixParam (destination (isIpv6 ip))
      (hosted q ip)[Drift.prefixParam]? = .ok ((hostNetwork ip).values Drift.prefixParam) := by
    rw [getElem?_hosted, if_pos rfl]
    exact expandParam_host ip
  have hdescribes := describes_of_validateAndExpand hsorted hsubst hmem hhere
  -- No parameter has the name of a value that is derived from the network.
  have hfree : ∀ suffix ∈ derivedSuffixes, ∀ spec,
      (Drift.prefixParam ++ suffix, spec) ∉ routeSchema tagged (isIpv6 ip) := by
    intro suffix hsuffix spec hin
    have hnames : ∀ suffix ∈ derivedSuffixes, Drift.prefixParam ++ suffix ≠ Drift.prefixParam ∧
        Drift.prefixParam ++ suffix ≠ Drift.tagParam := by
      decide
    rcases mem_routeSchema.mp hin with heq | ⟨-, heq⟩
    · exact (hnames suffix hsuffix).1 (Prod.mk.inj heq).1
    · exact (hnames suffix hsuffix).2 (Prod.mk.inj heq).1
  refine ⟨substOf values, hsubst, ?_⟩
  constructor
  case text => exact hdescribes.text
  case net =>
    have hnet := hdescribes.net (hfree _ (by decide))
    cases ip <;> exact hnet
  case mask =>
    intro hv4
    cases ip with
    | v4 a =>
      have hmask := hdescribes.mask a 32 rfl (hfree _ (by decide))
      have htext : Ipv4.addrText (Ipv4.mask 32) = "255.255.255.255" := by decide
      rwa [htext] at hmask
    | v6 a => cases hv4
  case tag =>
    intro n hn
    have htagged : tagged = true := by rw [htag, hn]; rfl
    have htagmem : (Drift.tagParam, rtbhTag) ∈ routeSchema tagged (isIpv6 ip) :=
      mem_routeSchema.mpr (Or.inr ⟨htagged, rfl⟩)
    obtain ⟨-, here, -, -, hhere, -⟩ := exists_split_of_expandParams hsorted htagmem hvalues
    have hgiven := hhere
    rw [getElem?_hosted, if_neg (by decide), hgives n hn] at hgiven
    rw [eq_of_expandParam_tag hgiven] at hhere
    exact getElem?_own hsorted hsubst htagmem hhere List.mem_cons_self

/-! ### From the request to the route -/

section Stored

variable {κ V : Type} [DecidableEq κ] {x : Drift.Audit κ} {nowStored : ℕ} {inv : Drift.Inventories}
  {base : Inventory Params} {rule : RuleRow V} {template : RerouteTemplate}
  {body : RuleActionBody Params} {sel : FlowSelector} {t : Template}

/-- A template of the catalogue is known by its name. -/
theorem eq_of_name {t t' : Template} (ht : t ∈ catalogue) (ht' : t' ∈ catalogue)
    (h : t.name = t'.name) : t = t' := by
  have hnodup : (catalogue.map Template.name).Nodup := by
    rw [names_catalogue]
    decide
  exact List.inj_on_of_nodup_map hnodup ht ht' h

theorem routeTemplate_mem (tagged present v6 : Bool) :
    routeTemplate tagged present v6 ∈ catalogue := by
  have hplace : ∀ a b c, catalogue[4 * a.toNat + 2 * c.toNat + (!b).toNat]? =
      some (routeTemplate a b c) := by
    rintro (_ | _) (_ | _) (_ | _) <;> rfl
  exact List.mem_of_getElem? (hplace tagged present v6)

/-- The templates an action may leave the network of open. -/
theorem exists_tagged (ht : t ∈ catalogue) (h : templateSupportsAutoTarget t.name = true) :
    ∃ tagged, t = routeTemplate tagged true false := by
  rw [templateSupportsAutoTarget, decide_eq_true_eq, List.mem_cons, List.mem_singleton] at h
  rcases h with h | h
  · exact ⟨false, eq_of_name ht (routeTemplate_mem false true false) h⟩
  · exact ⟨true, eq_of_name ht (routeTemplate_mem true true false) h⟩

theorem requiresTag_routeTemplate (tagged present v6 : Bool) :
    Drift.requiresTag (routeTemplate tagged present v6).name = tagged := by
  cases tagged <;> cases present <;> cases v6 <;> decide

theorem requires_routeTemplate (tagged present v6 : Bool) :
    Drift.requiresAnnouncedPrefixContainment (routeTemplate tagged present v6).name = true := by
  cases tagged <;> cases present <;> cases v6 <;> decide

/-- **What is stored of an action whose network is open**: parameters that were valid with a
network, and a tag that is catalogued. -/
theorem exists_of_addedParams (hcatalogue : ∀ id t, x.templates id = some t → t ∈ catalogue)
    (hname : ∀ t, x.templates body.rerouteTemplateId = some t → template.name = t.name)
    (h : addedParams (Drift.inventoryOf x nowStored inv base) rule template body =
      .ok (some flowDstHost, params)) :
    ∃ tagged tag q before,
      x.templates body.rerouteTemplateId = some (routeTemplate tagged true false) ∧
      params = q.erase Drift.prefixParam ∧
      validateAndExpand (routeSchema tagged false) q = .ok before ∧ tagged = tag.isSome ∧
      GivesTag q tag ∧ TagOf tagged inv.tags tag := by
  unfold addedParams at h
  split at h
  -- an action without a target is stored with its own network
  · obtain ⟨canonical, -, h⟩ := bind_eq_ok.mp h
    cases h
  · split at h
    · obtain ⟨-, -, h⟩ := bind_eq_ok.mp h
      obtain ⟨⟨⟩, hsupports, h⟩ := bind_eq_ok.mp h
      obtain ⟨q, hq, h⟩ := bind_eq_ok.mp h
      obtain ⟨-, rfl⟩ := Prod.mk.inj (Except.ok.inj h)
      have hcanonical : (Drift.inventoryOf x nowStored inv base).canonicalize body.deviceId
          body.rerouteTemplateId ((Drift.inventoryOf x nowStored inv base).probe body.params) =
            .ok q := by
        revert hq
        unfold invalid
        split
        · rename_i hok
          exact fun h => hok.trans (congrArg Except.ok (Except.ok.inj h))
        · exact fun h => by cases h
      dsimp only [Drift.inventoryOf] at hcanonical
      split at hcanonical
      · rename_i t ht
        -- the template is one of those the network may be left open in
        obtain ⟨tagged, rfl⟩ := exists_tagged (hcatalogue _ t ht)
          (hname t ht ▸ Drift.of_unprocessable hsupports)
        obtain ⟨subst, canonical, hsubst, hresolve, hc, -⟩ := Drift.canonicalize_eq_ok.mp hcanonical
        have hvalid := Drift.validateAndExpand_canonical (routeTemplate_mem tagged true false)
          (requires_routeTemplate tagged true false) hsubst hresolve hc
        rw [(isRoute tagged true false).schema] at hvalid
        -- the tag is what the table of tags gives, where the template has one
        rcases Drift.checkTag_eq_ok.mp hc with ⟨htagged, -, n, -, -, hn, rfl⟩ | ⟨htagged, rfl⟩
        · rw [requiresTag_routeTemplate] at htagged
          subst htagged
          refine ⟨true, some n, _, subst, ht, rfl, hvalid, rfl, fun m hm => ?_, n, hn, rfl⟩
          rw [← Option.some.inj hm]
          exact Std.TreeMap.getElem?_insert_self
        · rw [requiresTag_routeTemplate] at htagged
          subst htagged
          exact ⟨false, none, _, subst, ht, rfl, hvalid, rfl, fun m hm => (by cases hm), rfl⟩
      · cases hcanonical
    · cases h

end Stored

/-- **A host in the announced space passes the check of the space.** -/
theorem contained_of_announced {t : Template} (hannounced : Announced db now device ip)
    (hsubst : validateAndExpand t.schema params = .ok subst) (hfills : Fills subst ip tag) :
    Drift.prefixTargetIsContained now (db.inventories device) t params = .ok true := by
  unfold Drift.prefixTargetIsContained
  split_ifs with hname
  · refine bind_eq_ok.mpr ⟨subst, hsubst, bind_eq_ok.mpr ⟨_, okOr_eq_ok.mpr hfills.text, ?_⟩⟩
    obtain ⟨r, hr, hfresh, N, hread, hmem⟩ := hannounced
    have hfamily : N.SameFamily (hostNetwork ip) := by
      cases N with
      | v4 net length => obtain ⟨a, -, rfl⟩ := hmem; trivial
      | v6 net length => obtain ⟨a, -, rfl⟩ := hmem; trivial
    have hholds : networkContains r.name (hostNetwork ip).text = .ok true := by
      refine networkContains_eq_ok_true.mpr ⟨N, hostNetwork ip, hread,
        readCidr_text (fits_hostNetwork ip), hfamily, ?_⟩
      rw [addresses_hostNetwork, Set.singleton_subset_iff]
      exact hmem
    refine congrArg Except.ok (List.any_eq_true.mpr ⟨r, hr, ?_⟩)
    rw [hfresh, hholds]
    rfl
  · rfl

/-- An action whose parameters were valid is ready for any announced host. -/
theorem readyFor (hwired : Wired templates) {id : ℕ} {base : StoredTemplate} {q : Params}
    {before : NameMap Text} {tags : List ℕ} (hbase : templates id = some base)
    (htemplate : base.template = routeTemplate tagged true false)
    (hq : validateAndExpand (routeSchema tagged false) q = .ok before) (htag : tagged = tag.isSome)
    (hgives : GivesTag q tag) (htags : TagOf tagged tags tag)
    (hcidr : r.cidr = (hostNetwork ip).text)
    (hv6 : r.isV6 = isIpv6 ip) (hannounced : Announced db now device ip) :
    ∃ family, familyTemplate templates base r = .ok family ∧
      ReadyFor templates db now device tagged tags r ip ⟨family, hosted q ip,
        some ⟨r.cidr, r.lowConfidence, autoTargetNote r⟩⟩ := by
  obtain ⟨familyId, family, hfamily, hget, hroute⟩ : ∃ familyId family,
      familyTemplate templates base r = .ok family ∧ templates familyId = some family ∧
        family.template = routeTemplate tagged true (isIpv6 ip) := by
    -- the template of the other family is the sibling of the one the rule names
    rw [familyTemplate, hv6]
    cases hip : isIpv6 ip with
    | false => exact ⟨id, base, rfl, hbase, htemplate⟩
    | true =>
      obtain ⟨sibling, s', hsibling, hget, hroute⟩ := hwired.sibling hbase htemplate
      refine ⟨sibling, s', ?_, hget, hroute⟩
      rw [hsibling, if_pos rfl]
      exact okOr_eq_ok.mpr hget
  obtain ⟨undoId, undo, hundo, hundoGet, hundoRoute⟩ := hwired.rollback hget hroute
  obtain ⟨subst, hsubst, hfills⟩ := validate_host hq htag hgives ip
  have happly := isRoute tagged true (isIpv6 ip)
  have htake := isRoute tagged false (isIpv6 ip)
  refine ⟨family, hfamily, ?_⟩
  constructor
  case family => exact hroute
  case target => rw [hcidr]
  case contained =>
    refine contained_of_announced hannounced ?_ hfills
    rw [hroute, happly.schema]
    exact hsubst
  case commands =>
    refine ⟨tag, htags, ?_, ?_⟩
    · rw [hroute]
      exact render_route happly (happly.schema ▸ hsubst) hfills htag
    · obtain ⟨plan, hplan, hcommands⟩ := render_route htake (htake.schema ▸ hsubst) hfills htag
      refine ⟨plan, ?_, hcommands⟩
      have hname : family.template.name ≠ ("bgp_route_map_set" : Text) := by
        rw [hroute]
        cases tagged <;> cases isIpv6 ip <;> decide
      have hresolve : resolveRollback templates family.id (hosted q ip) =
          .ok (some (undo.template, hosted q ip)) := by
        rw [resolveRollback, hwired.id hget, hget, okOr, ok_bind]
        dsimp only
        rw [if_neg hname, hundo]
        -- `bgp_route_map_set` is undone in a way of its own, and no route is made by it
        exact bind_eq_ok.mpr ⟨undo, okOr_eq_ok.mpr hundoGet, rfl⟩
      rw [renderRollbackPlan, hresolve]
      dsimp only
      rw [hundoRoute, hplan]
      rfl

/-- **An action that leaves its network open becomes the route of a host**: one that is announced,
and no other one. It is skipped only where no host is found. -/
theorem prepared {κ V : Type} [DecidableEq κ] (templates : Templates) (hwired : Wired templates)
    (x : Drift.Audit κ) (hx : x.templates = fun id => (templates id).map StoredTemplate.template)
    (nowStored : ℕ) (inv : Drift.Inventories) (base : Inventory Params) (rule : RuleRow V)
    (template : RerouteTemplate) (body : RuleActionBody Params) (stored : Params)
    (hname : ∀ t, x.templates body.rerouteTemplateId = some t → template.name = t.name)
    (hstored : addedParams (Drift.inventoryOf x nowStored inv base) rule template body =
      .ok (some flowDstHost, stored)) (db : Db) (now : ℕ) (sel : FlowSelector) :
    match prepareAction templates db now sel body.rerouteTemplateId body.deviceId stored
      (some flowDstHost) with
    | .error reason => ∃ e, resolveFlowDstHost db now sel body.deviceId = .error e ∧
        reason = "auto-target: ".toList ++ e.message
    | .ok ready => ∃ r ip tagged, resolveFlowDstHost db now sel body.deviceId = .ok r ∧
        Announced db now body.deviceId ip ∧ (hostNetwork ip).addresses = {ip} ∧
        ReadyFor templates db now body.deviceId tagged inv.tags r ip ready := by
  obtain ⟨tagged, tag, q, before, hget, rfl, hq, htag, hgives, htags⟩ :=
    exists_of_addedParams (fun id t ht => by
      rw [hx] at ht
      obtain ⟨s, hs, rfl⟩ := Option.map_eq_some_iff.mp ht
      exact hwired.catalogued hs) hname hstored
  rw [hx] at hget
  obtain ⟨first, hfirst, htemplate⟩ := Option.map_eq_some_iff.mp hget
  rw [prepareAction, hfirst, okOr, ok_bind, if_neg (not_not.mpr rfl)]
  cases hresolve : resolveFlowDstHost db now sel body.deviceId with
  -- no host is found: the action is skipped for that reason
  | error e => exact ⟨e, rfl, rfl⟩
  | ok r =>
    obtain ⟨_, _, _, _, ip, -, -, -, hchosen⟩ := chosen_of_ok hresolve
    -- the host that was chosen is announced, and the parameters are good for any such host
    obtain ⟨family, hfamily, hready⟩ := readyFor hwired hfirst htemplate hq htag hgives htags
      hchosen.cidr hchosen.isV6 hchosen.announced
    have hhosted : (q.erase Drift.prefixParam).insert Drift.prefixParam (.string r.cidr) =
        hosted q ip := by
      rw [hchosen.cidr, hosted]
    rw [orSkip, ok_bind, hfamily, ok_bind, hhosted]
    exact ⟨r, ip, tagged, rfl, hchosen.announced, addresses_hostNetwork ip, hready⟩

/-! ### The templates as they are migrated -/

/-- An id of a template. -/
def routeId (tagged present v6 : Bool) : ℕ := 1 + 4 * tagged.toNat + 2 * (!present).toNat + v6.toNat

/-- The row of a template. -/
def migratedRow (tagged present v6 : Bool) : StoredTemplate where
  id := routeId tagged present v6
  template := routeTemplate tagged present v6
  v6Sibling := if v6 then none else some (routeId tagged present true)
  rollback := some (routeId tagged (!present) v6)

/-- The rows of the routes. -/
def migrated : Templates := fun id =>
  [migratedRow false true false, migratedRow false true true, migratedRow false false false,
    migratedRow false false true, migratedRow true true false, migratedRow true true true,
    migratedRow true false false, migratedRow true false true].find? fun s => s.id = id

theorem exists_of_migrated {id : ℕ} {s : StoredTemplate} (h : migrated id = some s) :
    s.id = id ∧ ∃ tagged present v6, s = migratedRow tagged present v6 := by
  refine ⟨by simpa using List.find?_some h, ?_⟩
  have hmem := List.mem_of_find?_eq_some h
  simp only [List.mem_cons, List.not_mem_nil, or_false] at hmem
  rcases hmem with h | h | h | h | h | h | h | h <;> exact ⟨_, _, _, h⟩

theorem migrated_routeId (tagged present v6 : Bool) :
    migrated (routeId tagged present v6) = some (migratedRow tagged present v6) := by
  cases tagged <;> cases present <;> cases v6 <;> rfl

/-- The parameters and the verification of a template say which one it is. -/
theorem routeTemplate_injective {tagged tagged' present present' v6 v6' : Bool}
    (h : routeTemplate tagged present v6 = routeTemplate tagged' present' v6') :
    tagged = tagged' ∧ present = present' ∧ v6 = v6' := by
  have htagged : ∀ a b c, decide ((routeTemplate a b c).schema.length = 2) = a := by
    rintro (_ | _) (_ | _) (_ | _) <;> rfl
  have hpresent : ∀ a b c, (routeTemplate a b c).verification.reject.isNone = b := by
    rintro (_ | _) (_ | _) (_ | _) <;> rfl
  have hv6 : ∀ a b c, (routeTemplate a b c).schema.head?.map (fun s => s.2.type) =
      some (.cidr c) := by
    rintro (_ | _) (_ | _) (_ | _) <;> rfl
  refine ⟨?_, ?_, ?_⟩
  · rw [← htagged tagged present v6, h, htagged]
  · rw [← hpresent tagged present v6, h, hpresent]
  · have hfamily := hv6 tagged present v6
    rw [h, hv6] at hfamily
    exact (ParamType.cidr.inj (Option.some.inj hfamily)).symm

theorem wired_migrated : Wired migrated where
  id h := (exists_of_migrated h).1
  catalogued h := by
    obtain ⟨-, tagged, present, v6, rfl⟩ := exists_of_migrated h
    exact routeTemplate_mem tagged present v6
  sibling h ht := by
    obtain ⟨-, tagged, present, v6, rfl⟩ := exists_of_migrated h
    obtain ⟨rfl, rfl, rfl⟩ := routeTemplate_injective ht
    exact ⟨_, _, rfl, migrated_routeId _ _ _, rfl⟩
  rollback h ht := by
    obtain ⟨-, tagged, present, v6, rfl⟩ := exists_of_migrated h
    obtain ⟨rfl, rfl, rfl⟩ := routeTemplate_injective ht
    exact ⟨_, _, rfl, migrated_routeId _ _ _, rfl⟩

/-- The audit of a quiet router, over these templates. -/
def migratedRun : Drift.Audit Text :=
  { Drift.quietRun with templates := fun id => (migrated id).map StoredTemplate.template }

/-- What is asked of the inventories, as far as a stored action needs it. -/
def anyInventory : Inventory Params :=
  ⟨fun _ => true, fun _ => none, fun _ _ p => .ok p, fun _ _ _ => .ok true, fun _ _ => .ok (), id,
    id⟩

theorem prepared_siege :
    match prepareAction migrated besieged 1100
      { interfaceId := some 1, direction := some .ingress } 1 9 ∅ (some flowDstHost) with
    | .error reason => ∃ e, resolveFlowDstHost besieged 1100
        { interfaceId := some 1, direction := some .ingress } 9 = .error e ∧
          reason = "auto-target: ".toList ++ e.message
    | .ok ready => ∃ r ip tagged, resolveFlowDstHost besieged 1100
        { interfaceId := some 1, direction := some .ingress } 9 = .ok r ∧
        Announced besieged 1100 9 ip ∧ (hostNetwork ip).addresses = {ip} ∧
        ReadyFor migrated besieged 1100 9 tagged [] r ip ready :=
  prepared (V := ℕ) migrated wired_migrated migratedRun rfl 0 {} anyInventory Drift.armedRule
    ⟨"null_route_prefix", "device_cli", true, true⟩ ⟨1, 9, ∅, none, some flowDstHost⟩ ∅
    (fun _ ht => congrArg Template.name (Option.some.inj ht)) rfl
      besieged 1100
    { interfaceId := some 1, direction := some .ingress }

end Rerouter.FlowTarget
