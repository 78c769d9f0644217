import Rerouter.Templates

/-!
# The catalogue of templates

The templates a change can be prepared with (`PREPARED_TEMPLATE_NAMES` of `reroute/device_plan.rs`),
each as the migrations leave it: its schema, with the names in their order, its commands and its
verification.

| templates | what they change |
|---|---|
| `null_route_…`, `blackhole_…` | a static route to `Null0`, with a tag or without |
| `bgp_session_…` | the `shutdown` of a neighbor |
| `bgp_advertise_…` | an entry of a prefix list |
| `bgp_route_map_…` | the route map of a neighbor |
| `bgp_export_policy_set` | the policies on the exports of a neighbor, without commands of its own |
| `iface_…` | the MSS of an interface, and its `shutdown` |
-/

namespace Rerouter

open Text

/-! ### Parameters -/

/-- An IPv4 network of a length of at least 8. -/
def destinationV4 : ParamSpec := { type := .cidr false, required := true, minLen := some 8 }

/-- An IPv6 network of a length of at least 29. -/
def destinationV6 : ParamSpec := { type := .cidr true, required := true, minLen := some 29 }

/-- The tag of an RTBH route. -/
def rtbhTag : ParamSpec := { type := .asn, default := some "666" }

/-- The AS of the router. -/
def localAsnParam : ParamSpec := { type := .asn, required := true, source := some "bgp_local_as" }

/-- A neighbor of the router. -/
def neighborParam : ParamSpec := { type := .ip, required := true, source := some "bgp_peer" }

/-- A network the router announces. -/
def announcedParam : ParamSpec :=
  { type := .cidr false, required := true, source := some "announced_prefix" }

/-- The list the exports of a neighbor pass. -/
def prefixListParam : ParamSpec :=
  { type := .string, required := true, source := some "peer_out_prefix_list" }

/-- The sequence number of an entry. -/
def sequenceSpec : ParamSpec := { type := .seq }

/-- A route map of the router. -/
def routeMapParam : ParamSpec := { type := .string, required := true, source := some "route_map" }

/-- `in` or `out`. -/
def directionParam : ParamSpec :=
  { type := .string, required := true, default := some "out", allowed := some ["in", "out"],
    source := some "bgp_direction" }

/-- An interface of the router. -/
def interfaceParam : ParamSpec :=
  { type := .string, required := true, source := some "interface_name" }

/-! ### Templates -/

/-- A template for an IPv4 route to `Null0`. -/
def routeTemplateV4 (name no tag : Text) (tagged present : Bool) : Template :=
  { name
    schema := ("prefix", destinationV4) :: if tagged then [("tag", rtbhTag)] else []
    apply := [no ++ "ip route {prefix_net} {prefix_mask} Null0" ++ tag]
    verification :=
      { command :=
          some ("show running-config | include ^ip route {prefix_net} {prefix_mask} Null0" ++
            tag ++ "$")
        expect := if present then some ("ip route {prefix_net} {prefix_mask} Null0" ++ tag)
          else none
        reject := if present then none
          else some ("ip route {prefix_net} {prefix_mask} Null0" ++ tag) } }

/-- A template for an IPv6 route to `Null0`. -/
def routeTemplateV6 (name no tag : Text) (tagged present : Bool) : Template :=
  { name
    schema := ("prefix", destinationV6) :: if tagged then [("tag", rtbhTag)] else []
    apply := [no ++ "ipv6 route \x7bprefix\x7d Null0" ++ tag]
    verification :=
      { command :=
          some ("show running-config | include ^ipv6 route \x7bprefix\x7d Null0" ++ tag ++ "$")
        expect := if present then some ("ipv6 route \x7bprefix\x7d Null0" ++ tag) else none
        reject := if present then none else some ("ipv6 route \x7bprefix\x7d Null0" ++ tag) } }

def nullRoutePrefix : Template := routeTemplateV4 "null_route_prefix" [] [] false true

def nullRouteWithdraw : Template := routeTemplateV4 "null_route_withdraw" "no " [] false false

def nullRoutePrefixV6 : Template := routeTemplateV6 "null_route_prefix_v6" [] [] false true

def nullRouteWithdrawV6 : Template := routeTemplateV6 "null_route_withdraw_v6" "no " [] false false

def blackholePrefix : Template := routeTemplateV4 "blackhole_prefix" [] " tag {tag}" true true

def blackholeWithdraw : Template :=
  routeTemplateV4 "blackhole_withdraw" "no " " tag {tag}" true false

def blackholePrefixV6 : Template := routeTemplateV6 "blackhole_prefix_v6" [] " tag {tag}" true true

def blackholeWithdrawV6 : Template :=
  routeTemplateV6 "blackhole_withdraw_v6" "no " " tag {tag}" true false

def bgpSessionEnable : Template :=
  { name := "bgp_session_enable"
    schema := [("local_asn", localAsnParam), ("neighbor_ip", neighborParam)]
    apply := ["router bgp {local_asn}", "no neighbor {neighbor_ip} shutdown"]
    verification :=
      { command := some "show ip bgp neighbors {neighbor_ip}"
        expect := some "BGP state"
        reject := some "Administratively shut" } }

def bgpSessionDisable : Template :=
  { name := "bgp_session_disable"
    schema := [("local_asn", localAsnParam), ("neighbor_ip", neighborParam)]
    apply := ["router bgp {local_asn}", "neighbor {neighbor_ip} shutdown"]
    verification :=
      { command := some "show ip bgp neighbors {neighbor_ip}"
        expect := some "Administratively shut" } }

/-- The schema of an edit of a prefix list. -/
def advertiseSchema : Schema :=
  [("neighbor_ip", neighborParam), ("prefix", announcedParam),
      ("prefix_list_name", prefixListParam),
    ("sequence", sequenceSpec)]

def bgpAdvertiseAdd : Template :=
  { name := "bgp_advertise_add"
    schema := advertiseSchema
    apply := ["ip prefix-list {prefix_list_name} seq {sequence} permit \x7bprefix\x7d"]
    execAfter := ["clear ip bgp {neighbor_ip} soft out"]
    verification :=
      { command := some "show ip bgp neighbors {neighbor_ip} advertised-routes"
        expect := some "\x7bprefix\x7d" } }

def bgpAdvertiseRemove : Template :=
  { name := "bgp_advertise_remove"
    schema := advertiseSchema
    apply := ["no ip prefix-list {prefix_list_name} seq {sequence} permit \x7bprefix\x7d"]
    execAfter := ["clear ip bgp {neighbor_ip} soft out"]
    verification :=
      { command := some "show ip bgp neighbors {neighbor_ip} advertised-routes"
        reject := some "\x7bprefix\x7d" } }

/-- The schema of a change of route map. -/
def routeMapSchema : Schema :=
  [("direction", directionParam), ("local_asn", localAsnParam), ("neighbor_ip", neighborParam),
    ("route_map", routeMapParam)]

def bgpRouteMapSet : Template :=
  { name := "bgp_route_map_set"
    schema := routeMapSchema
    apply := ["router bgp {local_asn}", "neighbor {neighbor_ip} route-map {route_map} {direction}"]
    execAfter := ["clear ip bgp {neighbor_ip} soft {direction}"]
    verification :=
      { command := some "show running-config | include neighbor {neighbor_ip} route-map"
        expect := some "{route_map} {direction}" } }

def bgpRouteMapUnset : Template :=
  { name := "bgp_route_map_unset"
    schema := routeMapSchema
    apply := ["router bgp {local_asn}",
      "no neighbor {neighbor_ip} route-map {route_map} {direction}"]
    execAfter := ["clear ip bgp {neighbor_ip} soft {direction}"]
    verification :=
      { command := some "show running-config | include neighbor {neighbor_ip} route-map"
        reject := some "{route_map} {direction}" } }

def bgpExportPolicySet : Template :=
  { name := "bgp_export_policy_set"
    schema :=
      [("neighbor_ip", neighborParam),
        ("policy_kind",
          { type := .string, required := true, allowed := some ["prefix_list", "route_map"] }),
        ("policy_name",
          { type := .string, required := true, source := some "routing_export_policy" })]
    apply := []
    verification := {} }

def ifaceTcpAdjustMss : Template :=
  { name := "iface_tcp_adjust_mss"
    schema := [("interface", interfaceParam),
      ("mss", { type := .int, required := true, default := some "1436" })]
    apply := ["interface {interface}", "ip tcp adjust-mss {mss}"]
    verification :=
      { command := some "show running-config interface {interface} | include ip tcp adjust-mss"
        expect := some "ip tcp adjust-mss {mss}" } }

/-- A template for an interface. -/
def interfaceTemplate (name command : Text) (verification : Verification) : Template :=
  { name
    schema := [("interface", interfaceParam)]
    apply := ["interface {interface}", command]
    verification }

def ifaceTcpAdjustMssRemove : Template :=
  interfaceTemplate "iface_tcp_adjust_mss_remove" "no ip tcp adjust-mss"
    { command := some "show running-config interface {interface} | include ip tcp adjust-mss"
      reject := some "ip tcp adjust-mss" }

def ifaceShutdown : Template :=
  interfaceTemplate "iface_shutdown" "shutdown"
    { command := some "show interfaces {interface}", expect := some "administratively down" }

def ifaceNoShutdown : Template :=
  interfaceTemplate "iface_no_shutdown" "no shutdown"
    { command := some "show interfaces {interface}", reject := some "administratively down" }

/-! ### The catalogue -/

/-- The catalogued templates. -/
def catalogue : List Template :=
  [nullRoutePrefix, nullRouteWithdraw, nullRoutePrefixV6, nullRouteWithdrawV6, blackholePrefix,
    blackholeWithdraw, blackholePrefixV6, blackholeWithdrawV6, bgpSessionEnable, bgpSessionDisable,
    bgpAdvertiseAdd, bgpAdvertiseRemove, bgpRouteMapSet, bgpRouteMapUnset, bgpExportPolicySet,
    ifaceTcpAdjustMss, ifaceTcpAdjustMssRemove, ifaceShutdown, ifaceNoShutdown]

/-- `PREPARED_TEMPLATE_NAMES`. -/
def preparedTemplateNames : List Text :=
  ["null_route_prefix", "null_route_withdraw", "null_route_prefix_v6", "null_route_withdraw_v6",
    "blackhole_prefix", "blackhole_withdraw", "blackhole_prefix_v6", "blackhole_withdraw_v6",
    "bgp_session_enable", "bgp_session_disable", "bgp_advertise_add", "bgp_advertise_remove",
    "bgp_route_map_set", "bgp_route_map_unset", "bgp_export_policy_set", "iface_tcp_adjust_mss",
    "iface_tcp_adjust_mss_remove", "iface_shutdown", "iface_no_shutdown"]

/-- `templates::load`, by the name of the template. -/
def loadTemplate (name : Text) : Except Text Template :=
  okOr (("reroute template " : Text) ++ name ++ " not found") (catalogue.find? fun t =>
    t.name = name)

/-- Every name that is prepared is catalogued, once. -/
theorem names_catalogue : catalogue.map Template.name = preparedTemplateNames := by
  decide +kernel

theorem loadTemplate_eq_ok {name : Text} {t : Template} (h : loadTemplate name = .ok t) :
    t ∈ catalogue ∧ t.name = name := by
  have hfind := okOr_eq_ok.mp h
  exact ⟨List.mem_of_find?_eq_some hfind, by simpa using List.find?_some hfind⟩

/-! ### What a value of the catalogue is -/

/-- The type that a parameter of a name has, whatever the template. -/
def typeFits (name : Text) (type : ParamType) : Bool :=
  if name = ("neighbor_ip" : Text) then type = .ip
  else if name = ("local_asn" : Text) ∨ name = ("tag" : Text) then type = .asn
  else if name = ("mss" : Text) then type = .int
  else if name = ("sequence" : Text) then type = .seq
  else if name = ("prefix" : Text) then type = .cidr false ∨ type = .cidr true
  else type = .string

theorem typeFits_of_mem : ∀ t ∈ catalogue, ∀ s ∈ t.schema, typeFits s.1 s.2.type = true := by
  decide +kernel

section Values

variable {t : Template} {params : Params} {subst : NameMap Text} {key value : Text}

/-- **A value stands for the parameter of its own name, or is derived from the network.** -/
theorem expands_of_mem_catalogue (ht : t ∈ catalogue)
    (h : validateAndExpand t.schema params = .ok subst)
    (hget : subst[key]? = some value) : ∃ name spec, (name, spec) ∈ t.schema ∧
      typeFits name spec.type = true ∧
      Expands name spec key value ∧
        (name = key ∨ name = ("prefix" : Text) ∧
          key ∈ (["prefix_net", "prefix_mask", "prefix_len"] : List Text)) := by
  obtain ⟨s, hs, hexpands⟩ := expands_of_validateAndExpand h hget
  have hfits := typeFits_of_mem t ht s hs
  refine ⟨s.1, s.2, hs, hfits, hexpands, ?_⟩
  -- only a parameter named prefix is a network, and derives other names
  have hnetwork : ∀ {v6 : Bool}, s.2.type = .cidr v6 → s.1 = ("prefix" : Text) := by
    intro v6 htype
    rw [htype, typeFits] at hfits
    split_ifs at hfits with h1 h2 h3 h4 h5
    · cases v6 <;> cases hfits
    · cases v6 <;> cases hfits
    · cases v6 <;> cases hfits
    · cases v6 <;> cases hfits
    · exact h5
    · cases v6 <;> cases hfits
  cases hexpands with
  | ip | asn | int | seq | deferred | string => exact Or.inl rfl
  | cidr4 htype a n hn hmem =>
    have hname := hnetwork htype
    rw [hname] at hmem ⊢
    simp only [expandV4, List.mem_cons, List.not_mem_nil, or_false, Prod.mk.injEq] at hmem
    rcases hmem with ⟨rfl, -⟩ | ⟨rfl, -⟩ | ⟨rfl, -⟩ | ⟨rfl, -⟩
    · exact Or.inl rfl
    all_goals exact Or.inr ⟨rfl, by decide⟩
  | cidr6 htype a n hn hmem =>
    have hname := hnetwork htype
    rw [hname] at hmem ⊢
    simp only [expandV6, List.mem_cons, List.not_mem_nil, or_false, Prod.mk.injEq] at hmem
    rcases hmem with ⟨rfl, -⟩ | ⟨rfl, -⟩ | ⟨rfl, -⟩
    · exact Or.inl rfl
    all_goals exact Or.inr ⟨rfl, by decide⟩

/-- A neighbor is an address. -/
theorem exists_of_neighbor_ip (ht : t ∈ catalogue)
    (h : validateAndExpand t.schema params = .ok subst)
    (hget : subst[("neighbor_ip" : Text)]? = some value) : ∃ ip, value = Ipv4.addrText ip := by
  obtain ⟨name, spec, -, hfits, hexpands, hname⟩ := expands_of_mem_catalogue ht h hget
  obtain rfl : name = ("neighbor_ip" : Text) :=
    hname.resolve_right fun hother => absurd hother.2 (by decide)
  have htype : spec.type = .ip := by simpa [typeFits] using hfits
  cases hexpands with
  | ip _ ip => exact ⟨ip, rfl⟩
  | asn h | int h | seq h | deferred h | cidr4 h | cidr6 h | string h =>
    rw [htype] at h
    cases h

/-- A network is printed with no bit set behind its length. -/
theorem exists_of_network (ht : t ∈ catalogue) (h : validateAndExpand t.schema params = .ok subst)
    (hget : subst[("prefix" : Text)]? = some value) : ∃ spec, (("prefix" : Text), spec) ∈ t.schema ∧
      ((spec.type = .cidr false ∧ ∃ a n, n ≤ 32 ∧
        value = Ipv4.addrText (a &&& Ipv4.mask n) ++ '/' :: natText n) ∨
        (spec.type = .cidr true ∧ ∃ a n, n ≤ 128 ∧
          value = Ipv6.addrText (a &&& Ipv6.mask n) ++ '/' :: natText n)) := by
  obtain ⟨name, spec, hmem, hfits, hexpands, hname⟩ := expands_of_mem_catalogue ht h hget
  obtain rfl : name = ("prefix" : Text) :=
    hname.resolve_right fun hother => absurd hother.2 (by decide)
  refine ⟨spec, hmem, ?_⟩
  have htype : spec.type = .cidr false ∨ spec.type = .cidr true := by simpa [typeFits] using hfits
  cases hexpands with
  | cidr4 hv4 a n hn hmem =>
    refine Or.inl ⟨hv4, a, n, hn, ?_⟩
    simp only [expandV4, List.mem_cons, List.not_mem_nil, or_false, Prod.mk.injEq] at hmem
    rcases hmem with ⟨-, rfl⟩ | ⟨hkey, -⟩ | ⟨hkey, -⟩ | ⟨hkey, -⟩
    · rfl
    all_goals exact absurd hkey (by decide)
  | cidr6 hv6 a n hn hmem =>
    refine Or.inr ⟨hv6, a, n, hn, ?_⟩
    simp only [expandV6, List.mem_cons, List.not_mem_nil, or_false, Prod.mk.injEq] at hmem
    rcases hmem with ⟨-, rfl⟩ | ⟨hkey, -⟩ | ⟨hkey, -⟩
    · rfl
    all_goals exact absurd hkey (by decide)
  | ip h | asn h | int h | seq h | deferred h | string h =>
    rw [h] at htype
    rcases htype with htype | htype <;> cases htype

end Values

end Rerouter
