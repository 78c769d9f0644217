import Rerouter.PlannedActions

/-!
# A prepared list is verified

A list of actions is prepared against one table of outputs, and then verified against the same
table. Both go through the list from its head and keep what the earlier actions leave
(`Rerouter.Tracked`), so a state before an action is either one that was left, or one that was read.

One action makes one step (`Rerouter.Steps`): it says where its states are settled, and hands what
is tracked on to the rest of the list if they are. By induction on the list a prepared list is
coherent, and verified, exactly when none of its requests is misread and the needs of its export
policies are kept (`Rerouter.verified_iff`). For two changes of prefix list the needs are kept when
the second goes back to the list there was before the first.
-/

namespace Rerouter

open Text

variable {table : Show → Except Text Text} {projected : Projection}
  {lists : ProjectedLists} {device : ℕ}
  {t : Template} {r : PrepareRequest} {subst : NameMap Text} {b : PreparedDeviceAction}

/-! ### What stays tracked -/

section Tracking

variable {states : List DeviceStateSnapshot}

theorem kind_ne_of_plain {s : DeviceStateSnapshot} (h : s.plain) :
    s.kind ≠ .prefixList ∧ s.kind ≠ .exportPolicyAttachment := by
  cases s with
  | prefixList | exportPolicyAttachment => exact h.elim
  | _ => exact ⟨StateKind.noConfusion, StateKind.noConfusion⟩

/-- States other than prefix lists leave the texts of the lists as they are. -/
theorem Tracked.project (htracked : Tracked table lists projected)
    (hleft : ∀ s ∈ states, Left table device s) (hkind : ∀ s ∈ states, s.kind ≠ .prefixList) :
    Tracked table lists (Rerouter.project device projected states) where
  left := project_invariant htracked.left hleft
  printed d name := by
    rw [htracked.printed, getElem?_project_of_ne]
    intro s hs hkey
    exact hkind s hs (stateKey_inj.mp hkey).2.1

/-- A prefix list that is left takes the place of the text there was. -/
theorem Tracked.project_list (htracked : Tracked table lists projected) {list : Text}
    {left : List PrefixListSnapshotEntry} {consumers : List PrefixListConsumer}
    (hleft : ∀ s ∈ .prefixList list left consumers :: states, Left table device s)
    (hkind : ∀ s ∈ states, s.kind ≠ .prefixList) :
    Tracked table (((device, list), renderPrefixListSnapshot list left) :: lists)
      (Rerouter.project device projected (.prefixList list left consumers :: states)) where
  left := project_invariant htracked.left hleft
  printed d name := by
    by_cases hsame : (d, name) = (device, list)
    · cases hsame
      have hget := @getElem?_project_of_mem device (.prefixList list left consumers) projected
        (.prefixList list left consumers :: states) List.mem_cons_self fun s' hs' hkey =>
          (List.mem_cons.mp hs').resolve_right fun hrest =>
            hkind s' hrest (stateKey_inj.mp hkey).2.1
      have hkey : stateKey device (.prefixList list left consumers) =
        stateKey device (.prefixList list [] []) := rfl
      rw [← hkey, hget, List.lookup_cons_self]
      rfl
    · rw [List.lookup_cons, beq_false_of_ne hsame, htracked.printed, getElem?_project_of_ne]
      intro s hs hkey
      obtain ⟨hdevice, hkind', hobject⟩ := stateKey_inj.mp hkey
      rcases List.mem_cons.mp hs with rfl | hs
      · obtain rfl : list = name := hobject
        exact hsame (by rw [hdevice])
      · exact hkind s hs hkind'

/-- The export policy of a neighbor stays, unless it is among the states that are put in. -/
theorem projectedExportPolicy_project {neighbor : Text} {d : ℕ} (h : ExportsApart projected)
    (h' : ExportsApart (Rerouter.project device projected states)) (hneighbor : ':' ∉ neighbor)
    (hstates : ∀ a, .exportPolicyAttachment a ∈ states → ':' ∉ a.neighbor ∧
      ¬(device = d ∧ a.neighbor = neighbor)) :
    projectedExportPolicy (Rerouter.project device projected states) d neighbor =
      projectedExportPolicy projected d neighbor := by
  refine Option.ext fun s => ?_
  rw [projectedExportPolicy_eq_some h hneighbor, projectedExportPolicy_eq_some h' hneighbor]
  refine exists_congr fun a => and_congr_right fun _ => and_congr_right fun hname => ?_
  rw [ExportProjected, getElem?_project_of_ne, ExportProjected]
  intro s' hs' hkey
  obtain ⟨hdevice, hkind, hobject⟩ := stateKey_inj.mp hkey
  cases s' with
  | exportPolicyAttachment a' =>
    obtain ⟨hcolon, hother⟩ := hstates a' hs'
    have hsame := (append_cons_inj hcolon (hname ▸ hneighbor) hobject).1
    exact hother ⟨hdevice, hsame.trans hname⟩
  | _ => cases hkind

/-- The export policy that is put in is found. -/
theorem projectedExportPolicy_project_self {a : ExportPolicyAttachment}
    (h' : ExportsApart (Rerouter.project device projected (.exportPolicyAttachment a :: states)))
    (hneighbor : ':' ∉ a.neighbor) (hkind : ∀ s ∈ states, s.kind = .bgpAdvertisement) :
    projectedExportPolicy (Rerouter.project device projected (.exportPolicyAttachment a :: states))
    device
      a.neighbor = some (.exportPolicyAttachment a) := by
  refine (projectedExportPolicy_eq_some h' hneighbor).mpr ⟨a, rfl, rfl, ?_⟩
  refine getElem?_project_of_mem List.mem_cons_self fun s' hs' hkey => ?_
  refine (List.mem_cons.mp hs').resolve_right fun hrest => ?_
  have hkind' := (stateKey_inj.mp hkey).2.1
  rw [hkind s' hrest] at hkind'
  cases hkind'

end Tracking

/-! ### The list -/

/-- The values of a request. -/
def requestValues (r : PrepareRequest) : Option (NameMap Text) :=
  (loadTemplate r.templateName).toOption.bind fun t =>
    (validateAndExpand t.schema r.params).toOption

/-- The change that a request makes of the exports of a neighbor, if it makes one. -/
def exportChange (device : ℕ) (neighbor : Text) (r : PrepareRequest) : Option PolicyChange :=
  if r.device = device ∧ templateKind r.templateName = some .exportPolicy then do
    let subst ← requestValues r
    let ip ← subst[("neighbor_ip" : Text)]?
    let kindName ← subst[("policy_kind" : Text)]?
    let kind ← (policyKindNamed kindName).toOption
    let name ← subst[("policy_name" : Text)]?
    if ip = neighbor then some (kind, name) else none
  else none

theorem requestValues_of_loaded (h : Loaded loadTemplate r t subst) :
    requestValues r = some subst := by
  rw [requestValues, h.load]
  simp [Except.toOption, h.expand]

theorem exportChange_of_kind {neighbor : Text}
    (h : templateKind r.templateName ≠ some .exportPolicy) :
    exportChange device neighbor r = none := if_neg fun hboth => h hboth.2

theorem needsLeft_of_keptBehind {neighbor : Text} {left : Option DeviceStateSnapshot}
    {c : PolicyChange}
    {changes : List PolicyChange} (h : KeptBehind table device neighbor left (c :: changes)) :
    NeedsLeft left c := by
  unfold KeptBehind at h
  unfold NeedsLeft
  split at h
  · exact h.1
  · trivial

/-- What is known of one action of a list: where its states before it are settled, and what they
make of the rest of the list if they are. -/
structure Steps (table : Show → Except Text Text) (lists : ProjectedLists) (projected : Projection)
    (r : PrepareRequest) (t : Template) (subst : NameMap Text)
    (a : PreparedDeviceAction) : Prop where
  device_eq : a.device = r.device
  valid : a.validate = .ok ()
  settled : (∀ s ∈ a.before, Settled table projected r.device s) ↔ ¬Misread table t r.device subst ∧
    ∀ d ip c, exportChange d (Ipv4.addrText ip) r = some c →
      NeedsLeft (projectedExportPolicy projected d (Ipv4.addrText ip)) c
  tracked : (∀ s ∈ a.before, Settled table projected r.device s) →
    Tracked table (listsAfter r a lists) (project r.device projected a.after)
  kept : (∀ s ∈ a.before, Settled table projected r.device s) → ∀ d ip changes,
    KeptBehind table d (Ipv4.addrText ip) (projectedExportPolicy projected d (Ipv4.addrText ip))
        ((exportChange d (Ipv4.addrText ip) r).toList ++ changes) ↔
      KeptBehind table d (Ipv4.addrText ip)
        (projectedExportPolicy (project r.device projected a.after) d (Ipv4.addrText ip)) changes

theorem colon_not_mem_addrText (ip : Ipv4.Addr) : ':' ∉ Ipv4.addrText ip :=
  Ipv4.not_mem_addrText (by decide) (by decide) ip

/-- An action that is not about the exports of a neighbor leaves them alone. -/
theorem steps_of_no_export (htracked : Tracked table lists projected) {misread : Prop}
    (hmisread : Misread table t r.device subst ↔ misread)
    (hkind : templateKind r.templateName ≠ some .exportPolicy)
    (hplanned : Planned table projected r.device misread b)
    (hexport : ∀ s ∈ b.after, s.kind ≠ .exportPolicyAttachment)
    (hlists : (∀ s ∈ b.after, Left table r.device s) →
      Tracked table (listsAfter r b lists) (project r.device projected b.after)) :
    Steps table lists projected r t subst b where
  device_eq := hplanned.device_eq
  valid := hplanned.valid
  settled := by
    rw [hplanned.settled, hmisread]
    refine (and_iff_left fun d ip c hchange => ?_).symm
    rw [exportChange_of_kind hkind] at hchange
    cases hchange
  tracked hall := hlists (hplanned.left hall)
  kept hall d ip changes := by
    rw [exportChange_of_kind hkind, projectedExportPolicy_project htracked.exportsApart
      (hlists (hplanned.left hall)).exportsApart (colon_not_mem_addrText ip)]
    · exact Iff.rfl
    · intro a ha
      exact absurd rfl (hexport _ ha)

theorem steps_plain (htracked : Tracked table lists projected) {misread : Prop}
    (hmisread : Misread table t r.device subst ↔ misread)
    (hkind : templateKind r.templateName ≠ some .exportPolicy ∧
      templateKind r.templateName ≠ some .prefixList)
    (hplanned : Planned table projected r.device misread b ∧ ∀ s ∈ b.after, s.plain) :
    Steps table lists projected r t subst b := by
  refine steps_of_no_export htracked hmisread hkind.1 hplanned.1
    (fun s hs => (kind_ne_of_plain (hplanned.2 s hs)).2) fun hleft => ?_
  rw [listsAfter, if_neg hkind.2]
  exact htracked.project hleft fun s hs => (kind_ne_of_plain (hplanned.2 s hs)).1

theorem steps_prefixList (htracked : Tracked table lists projected)
    (hkind : templateKind t.name = some .prefixList) (hname : t.name = r.templateName)
    (hplanned : Planned table projected r.device False b ∧
      ∃ list left consumers advertisement established,
      b.after = [.prefixList list left consumers, advertisement, established] ∧
        advertisement.kind = .bgpAdvertisement ∧ established.kind = .bgpNeighborState) :
    Steps table lists projected r t subst b := by
  obtain ⟨hplanned, list, left, consumers, advertisement, established, hafter, hadvertisement,
    hestablished⟩ := hplanned
  have hmisread : Misread table t r.device subst ↔ False := by
    simp only [Misread, hkind]
  have hkind' : templateKind r.templateName = some .prefixList := hname ▸ hkind
  -- the list is projected; its two proofs are read from the device again
  refine steps_of_no_export htracked hmisread (by rw [hkind']; decide) hplanned ?_ fun hleft => ?_
  · rw [hafter]
    refine List.forall_mem_cons.mpr ⟨by exact StateKind.noConfusion,
      List.forall_mem_cons.mpr ⟨?_, ?_⟩⟩
    · rw [hadvertisement]
      decide
    · rw [List.forall_mem_singleton, hestablished]
      decide
  · rw [hafter] at hleft ⊢
    rw [listsAfter, if_pos hkind', hafter]
    refine htracked.project_list hleft (List.forall_mem_cons.mpr ⟨?_, ?_⟩)
    · rw [hadvertisement]
      decide
    · rw [List.forall_mem_singleton, hestablished]
      decide

theorem steps_exportPolicy (htracked : Tracked table lists projected)
    (hloaded : Loaded loadTemplate r t subst)
    (hkind : templateKind t.name = some .exportPolicy) {mode : PlanMode}
    (hneighbor : ∀ neighbor, subst[("neighbor_ip" : Text)]? = some neighbor →
      ∃ ip, neighbor = Ipv4.addrText ip)
    (h : Reads.answer table (prepareExportPolicyAction mode r subst projected) = .ok b) :
    Steps table lists projected r t subst b := by
  have hcolon : ∀ neighbor, subst[("neighbor_ip" : Text)]? = some neighbor → ':' ∉ neighbor := by
    intro neighbor hget
    obtain ⟨ip, rfl⟩ := hneighbor neighbor hget
    exact colon_not_mem_addrText ip
  obtain ⟨neighbor, kindName, kind, name, attachment, proofs, hip, hkindName, hpolicy, hpolicyName,
    hplanned, hafter, hattachment, hproofs, hkept⟩ := planned_exportPolicy htracked hcolon h
  have hkind' : templateKind r.templateName = some .exportPolicy := hloaded.name ▸ hkind
  -- the action changes the policy of one neighbor of one device
  have hchange : ∀ d ip, exportChange d (Ipv4.addrText ip) r =
      if r.device = d ∧ neighbor = Ipv4.addrText ip then some (kind, name) else none := by
    intro d ip
    rw [exportChange, requestValues_of_loaded hloaded]
    by_cases hdevice : r.device = d
    · rw [if_pos ⟨hdevice, hkind'⟩]
      simp only [Option.bind_eq_bind, Option.bind_some, hip, hkindName, hpolicy, hpolicyName,
        Except.toOption, hdevice, true_and]
    · rw [if_neg fun hboth => hdevice hboth.1, if_neg fun hboth => hdevice hboth.1]
  have hmisread : Misread table t r.device subst ↔ ∃ neighbor bgp, subst[("neighbor_ip" : Text)]? =
    some neighbor ∧
      table (r.device, bgpSection) = .ok bgp ∧ BoundElsewhere bgp neighbor := by
    simp only [Misread, hkind]
  have hlists : ∀ s ∈ b.after, s.kind ≠ .prefixList := by
    rw [hafter]
    refine List.forall_mem_cons.mpr ⟨by exact StateKind.noConfusion, fun s hs => ?_⟩
    rw [hproofs s hs]
    decide
  -- no state it leaves is a list, so the lists stay as they are
  have htracked' : (∀ s ∈ b.before, Settled table projected r.device s) →
      Tracked table (listsAfter r b lists) (project r.device projected b.after) := by
    intro hall
    rw [listsAfter, if_neg (by rw [hkind']; decide)]
    exact htracked.project (hplanned.left hall) hlists
  refine ⟨hplanned.device_eq, hplanned.valid, ?_, htracked', fun hall d ip changes => ?_⟩
  · rw [hplanned.settled, not_or, not_not, hmisread]
    refine and_congr_right fun _ => ⟨fun hneeds d ip c hc => ?_, fun hall => ?_⟩
    · rw [hchange] at hc
      split at hc
      · rename_i hsame
        obtain ⟨rfl, rfl⟩ := hsame
        cases hc
        exact hneeds
      · cases hc
    · obtain ⟨ip, rfl⟩ := hneighbor neighbor hip
      exact hall r.device ip _ (by rw [hchange, if_pos ⟨rfl, rfl⟩])
  · rw [hchange]
    have hapart := (htracked' hall).exportsApart
    -- of that neighbor the projection holds what the action leaves, of any other what it held
    by_cases hsame : r.device = d ∧ neighbor = Ipv4.addrText ip
    · obtain ⟨rfl, rfl⟩ := hsame
      have hself : projectedExportPolicy (project r.device projected b.after) r.device
        (Ipv4.addrText ip) =
          some (.exportPolicyAttachment attachment) := by
        rw [hafter] at hapart ⊢
        rw [← hattachment]
        exact projectedExportPolicy_project_self hapart
          (hattachment ▸ colon_not_mem_addrText ip) hproofs
      have hneeds := (not_or.mp (hplanned.settled.mp hall)).2
      rw [if_pos ⟨rfl, rfl⟩, hself, Option.toList_some, List.singleton_append, hkept]
      exact and_iff_right (not_not.mp hneeds)
    · rw [if_neg hsame, projectedExportPolicy_project htracked.exportsApart hapart
        (colon_not_mem_addrText ip)]
      · exact Iff.rfl
      · intro a ha
        rw [hafter] at ha
        rcases List.mem_cons.mp ha with ha | ha
        · cases ha
          refine ⟨hattachment ▸ hcolon neighbor hip, fun hboth => hsame ⟨hboth.1, ?_⟩⟩
          rw [← hboth.2, hattachment]
        · have hkind'' := hproofs _ ha
          cases hkind''

/-- **One action of a list.** -/
theorem steps_plannerOf (htracked : Tracked table lists projected)
    (hloaded : Loaded loadTemplate r t subst) {rtbh : ℕ → Option Text} {mode : PlanMode}
    (h : Reads.answer table (plannerOf rtbh mode lists projected t r subst) = .ok b) :
    Steps table lists projected r t subst b := by
  obtain ⟨ht, -⟩ := loadTemplate_eq_ok hloaded.load
  have hneighbor : ∀ neighbor, subst[("neighbor_ip" : Text)]? = some neighbor →
    ∃ ip, neighbor = Ipv4.addrText ip :=
    fun neighbor hget => exists_of_neighbor_ip ht hloaded.expand hget
  have hcidr : ∀ cidr, subst[("prefix" : Text)]? = some cidr → normalizeCidr cidr = some cidr := by
    intro cidr hget
    obtain ⟨spec, -, ⟨-, a, n, hn, rfl⟩ | ⟨-, a, n, hn, rfl⟩⟩ :=
      exists_of_network ht hloaded.expand hget
    · rw [normalizeCidr_net4 _ hn, Ipv4.mask_mask]
    · rw [normalizeCidr_net6 _ hn, BitVec.and_assoc, BitVec.and_self]
  -- a planner that changes neither a list nor a policy leaves both projections alone
  have hother : ∀ k, templateKind t.name = some k → k ≠ .exportPolicy → k ≠ .prefixList →
      templateKind r.templateName ≠ some .exportPolicy ∧
        templateKind r.templateName ≠ some .prefixList := by
    intro k hk hexport hlist
    rw [← hloaded.name, hk]
    exact ⟨fun heq => hexport (Option.some.inj heq), fun heq => hlist (Option.some.inj heq)⟩
  unfold plannerOf at h
  split at h
  · rename_i hkind
    refine steps_prefixList htracked hkind hloaded.name (planned_prefixList htracked ?_ ?_ h)
    · intro cidr hget
      obtain ⟨spec, hspec, ⟨-, a, n, -, rfl⟩ | ⟨hv6, -⟩⟩ := exists_of_network ht hloaded.expand hget
      · exact ⟨_, n, rfl⟩
      · exact absurd hv6 (network_of_prefixList t ht hkind _ hspec)
    · exact fun list hget => noWs_of_validateAndExpand hloaded.expand hget
  · rename_i hkind
    exact steps_plain htracked (by simp only [Misread, hkind])
      (hother _ hkind (by decide) (by decide)) (planned_staticRoute htracked hcidr h)
  · rename_i hkind
    exact steps_plain htracked (by simp only [Misread, hkind])
      (hother _ hkind (by decide) (by decide)) (planned_neighborShutdown htracked h)
  · rename_i hkind
    refine steps_plain htracked (by simp only [Misread, hkind])
      (hother _ hkind (by decide) (by decide))
      (planned_routeMap htracked (fun neighbor hget => ?_) h)
    obtain ⟨ip, rfl⟩ := hneighbor neighbor hget
    exact colon_not_mem_addrText ip
  · rename_i hkind
    exact steps_exportPolicy htracked hloaded hkind hneighbor h
  · rename_i hkind
    exact steps_plain htracked (by simp only [Misread, hkind])
      (hother _ hkind (by decide) (by decide)) (planned_interfaceMss htracked h)
  · rename_i hkind
    exact steps_plain htracked (by simp only [Misread, hkind])
      (hother _ hkind (by decide) (by decide)) (planned_interfaceAdmin htracked h)
  · cases h

theorem valid_inMode {a : PreparedDeviceAction} {mode : PlanMode} (h : a.validate = .ok ()) :
    (a.inMode mode).validate = .ok () := by
  obtain ⟨version, device, template, name, kind, mode', commands, before, after, verify, effect,
    inverse⟩ := a
  unfold PreparedDeviceAction.validate PreparedDeviceAction.inMode at *
  cases inverse with
  | none => exact h
  | some i =>
    dsimp only [Option.map_some] at h ⊢
    simp only [Option.isSome_some] at h ⊢
    split_ifs at h with hversion hidentified hchange hsatisfied hmode hnonempty
    rw [if_neg hversion, if_neg (not_not.mpr hidentified), if_neg hchange, if_neg hsatisfied,
      if_neg (not_not.mpr rfl), if_neg hnonempty]

/-- A list is verified action by action. -/
theorem verifySequenceFrom_cons {a : PreparedDeviceAction} {actions : List PreparedDeviceAction} :
    Reads.answer table (verifySequenceFrom projected (a :: actions)) = .ok true ↔
      a.validate = .ok () ∧ (∀ s ∈ a.before, Settled table projected a.device s) ∧
        Reads.answer table (verifySequenceFrom (project a.device projected a.after) actions) =
          .ok true := by
  rw [verifySequenceFrom, Reads.answer_bind, answer_decided, bind_eq_ok]
  constructor
  · rintro ⟨⟨⟩, hvalid, h⟩
    rw [Reads.answer_bind] at h
    obtain ⟨verdict, hverdict, h⟩ := bind_eq_ok.mp h
    cases verdict with
    | true => exact ⟨hvalid, verifyBefore_eq_true.mp hverdict, h⟩
    | false => cases h
  · rintro ⟨hvalid, hbefore, h⟩
    refine ⟨(), hvalid, ?_⟩
    rw [Reads.answer_bind, verifyBefore_eq_true.mpr hbefore]
    exact h

/-- The states before the actions are the ones that earlier actions leave, wherever these leave
one. -/
def CoherentFrom : Projection → List PreparedDeviceAction → Prop
  | _, [] => True
  | projected, a :: actions =>
    (∀ before ∈ a.before, ∀ priorAfter ∈ projected[stateKey a.device before]?, priorAfter =
        before) ∧
      CoherentFrom (project a.device projected a.after) actions

instance decidableCoherentFrom : ∀ projected actions, Decidable (CoherentFrom projected actions)
  | _, [] => isTrue trivial
  | projected, a :: actions =>
    let := decidableCoherentFrom (project a.device projected a.after) actions
    inferInstanceAs (Decidable (_ ∧ _))

/-- **A list is coherent**: a state before a later action is the one an earlier action leaves. -/
def Coherent (actions : List PreparedDeviceAction) : Prop := CoherentFrom ∅ actions

instance (actions : List PreparedDeviceAction) : Decidable (Coherent actions) :=
  decidableCoherentFrom ∅ actions

/-- What is verified is coherent. -/
theorem coherentFrom_of_verified {actions : List PreparedDeviceAction}
    (h : Reads.answer table (verifySequenceFrom projected actions) = .ok true) :
    CoherentFrom projected actions := by
  induction actions generalizing projected with
  | nil => trivial
  | cons a actions ih =>
    obtain ⟨-, hbefore, hrest⟩ := verifySequenceFrom_cons.mp h
    exact ⟨fun s hs => (hbefore s hs).1, ih hrest⟩

/-- **A prepared list behind what earlier actions leave.** -/
theorem verifiedFrom_iff (htracked : Tracked table lists projected) {rtbh : ℕ → Option Text}
    {mode : PlanMode} {requests : List PrepareRequest} {actions : List PreparedDeviceAction}
    (h : Reads.answer table (prepareFrom loadTemplate rtbh mode lists projected requests) =
      .ok actions) :
    Reads.answer table (verifySequenceFrom projected actions) = .ok true ↔
      (∀ r ∈ requests, ∀ t subst, Loaded loadTemplate r t subst → ¬Misread table t r.device subst) ∧
        ∀ d ip, KeptBehind table d (Ipv4.addrText ip)
          (projectedExportPolicy projected d (Ipv4.addrText ip))
          (requests.filterMap (exportChange d (Ipv4.addrText ip))) := by
  induction requests generalizing lists projected actions with
  | nil =>
    cases h
    exact iff_of_true rfl ⟨fun r hr => absurd hr List.not_mem_nil, fun d ip => keptBehind_nil⟩
  | cons r requests ih =>
    simp only [prepareFrom, Reads.answer_bind, Reads.answer_pure] at h
    obtain ⟨a, ha, h⟩ := bind_eq_ok.mp h
    obtain ⟨rest, hrest, h⟩ := bind_eq_ok.mp h
    cases h
    obtain ⟨t, subst, b, hloaded, -, hb, rfl⟩ := of_prepareAction ha
    have hsteps := steps_plannerOf htracked hloaded hb
    have hdevice : (b.inMode mode).device = r.device := hsteps.device_eq
    have hbefore : (b.inMode mode).before = b.before := rfl
    have hmisread : (∀ t subst, Loaded loadTemplate r t subst → ¬Misread table t r.device subst) ↔
        ¬Misread table t r.device subst := by
      refine ⟨fun hall => hall t subst hloaded, fun hnot t' subst' hloaded' => ?_⟩
      obtain rfl := Except.ok.inj (hloaded.load.symm.trans hloaded'.load)
      obtain rfl := Except.ok.inj (hloaded.expand.symm.trans hloaded'.expand)
      exact hnot
    have hchanges : ∀ d ip, (r :: requests).filterMap (exportChange d (Ipv4.addrText ip)) =
        (exportChange d (Ipv4.addrText ip) r).toList ++ requests.filterMap
        (exportChange d (Ipv4.addrText ip)) := by
      intro d ip
      rw [List.filterMap_cons]
      cases exportChange d (Ipv4.addrText ip) r <;> rfl
    rw [verifySequenceFrom_cons, hdevice, hbefore, List.forall_mem_cons, hmisread]
    simp only [hchanges]
    by_cases hall : ∀ s ∈ b.before, Settled table projected r.device s
    · -- the rest of the list is verified behind what this action leaves
      have hnot := (hsteps.settled.mp hall).1
      rw [and_iff_right (valid_inMode hsteps.valid), and_iff_right hall, and_iff_right hnot]
      simp only [hsteps.kept hall]
      exact ih (hsteps.tracked hall) hrest
    · -- a state that is not settled is misread, or its needs are not those of what is left
      refine iff_of_false (fun hboth => hall hboth.2.1) fun hboth =>
        hall (hsteps.settled.mpr ⟨hboth.1.1, ?_⟩)
      intro d ip c hc
      have hkept := hboth.2 d ip
      rw [hc, Option.toList_some, List.singleton_append] at hkept
      exact needsLeft_of_keptBehind hkept

/-- **A prepared list is verified against the router it was prepared from** exactly when none of its
requests is misread, and the changes of each neighbor's export policies need the same names one
after another. -/
theorem verified_iff (rtbh : ℕ → Option Text) (mode : PlanMode) (table : Show → Except Text Text)
    (requests : List PrepareRequest) (actions : List PreparedDeviceAction)
    (h : Reads.answer table (prepareActions loadTemplate rtbh mode requests) = .ok actions) :
    (Coherent actions ∧ Reads.answer table (verifyPreparedSequence actions) = .ok true) ↔
      (∀ r ∈ requests, ∀ t subst, Loaded loadTemplate r t subst → ¬Misread table t r.device subst) ∧
        ∀ device ip read,
          Reads.answer table (readExportAttachment device (Ipv4.addrText ip)) = .ok read →
            NeedsKept read.policies (requests.filterMap
              (exportChange device (Ipv4.addrText ip))) := by
  have hverified := verifiedFrom_iff tracked_empty h
  have hnone : ∀ d ip, projectedExportPolicy ∅ d (Ipv4.addrText ip) = none := fun d ip => rfl
  simp only [hnone] at hverified
  exact ⟨fun hboth => hverified.mp hboth.2, fun hright =>
    ⟨coherentFrom_of_verified (hverified.mpr hright), hverified.mpr hright⟩⟩

/-! ### Two changes of one neighbor -/

/-- A change of the prefix list on the exports of a neighbor. -/
def exportListRequest (list : Text) : PrepareRequest :=
  { device := 1
    templateId := 1
    templateName := "bgp_export_policy_set"
    params := (((∅ : Params).insert "neighbor_ip" (.string "192.0.2.1")).insert "policy_kind"
      (.string "prefix_list")).insert "policy_name" (.string list)
    identified := ⟨by decide, by decide, by decide⟩ }

/-- A router with three lists, the first of which is on the exports of the neighbor. -/
def exportRouter (s : Show) : Except Text Text :=
  if s.2 = bgpSection then
    .ok ("router bgp 65000\n neighbor 192.0.2.1 remote-as 65001\n" ++
      " neighbor 192.0.2.1 prefix-list L1 out" : String)
  else if s.2 = prefixListSection then
    .ok ("ip prefix-list L1 seq 5 permit 198.51.100.0/24\n" ++
      "ip prefix-list L2 seq 5 permit 198.51.101.0/24\n" ++
      "ip prefix-list L3 seq 5 permit 198.51.102.0/24" : String)
  else .ok []

/-- Whether a list that is prepared is coherent, and what its verification says. -/
def sequenceVerdict (table : Show → Except Text Text) (requests : List PrepareRequest) :
    Option (Bool × Except Text Bool) :=
  match Reads.answer table (prepareActions loadTemplate (fun _ => none) .configurationOnly requests)
    with
  | .ok actions =>
    some (decide (Coherent actions), Reads.answer table (verifyPreparedSequence actions))
  | .error _ => none

theorem exists_of_sequenceVerdict {requests : List PrepareRequest} {coherent : Bool}
    {verdict : Except Text Bool}
    (h : sequenceVerdict table requests = some (coherent, verdict)) : ∃ actions,
      Reads.answer table (prepareActions loadTemplate (fun _ => none) .configurationOnly requests) =
      .ok actions ∧
        decide (Coherent actions) = coherent ∧ Reads.answer table (verifyPreparedSequence actions) =
          verdict := by
  unfold sequenceVerdict at h
  split at h
  · rename_i actions hactions
    cases h
    exact ⟨actions, hactions, rfl, rfl⟩
  · cases h

/-- The list of the neighbor is changed to a second one and then to a third: the state before the
later action is not the one that the earlier action leaves, and the unchanged router does not
pass. -/
theorem not_coherent_twoChanges : ∃ actions,
    Reads.answer exportRouter (prepareActions loadTemplate (fun _ => none) .configurationOnly
      [exportListRequest "L2", exportListRequest "L3"]) = .ok actions ∧
        ¬Coherent actions ∧ Reads.answer exportRouter (verifyPreparedSequence actions) =
        .ok false := by
  have hrun : sequenceVerdict exportRouter [exportListRequest "L2", exportListRequest "L3"] =
      some (false, .ok false) := by decide +kernel
  obtain ⟨actions, hactions, hcoherent, hverdict⟩ := exists_of_sequenceVerdict hrun
  exact ⟨actions, hactions, of_decide_eq_false hcoherent, hverdict⟩

theorem verified_iff_backAgain : ∃ actions,
    Reads.answer exportRouter (prepareActions loadTemplate (fun _ => none) .configurationOnly
      [exportListRequest "L2", exportListRequest "L1"]) = .ok actions ∧
        ((Coherent actions ∧ Reads.answer exportRouter (verifyPreparedSequence actions) =
          .ok true) ↔
          (∀ r ∈ [exportListRequest "L2", exportListRequest "L1"], ∀ t subst,
            Loaded loadTemplate r t subst → ¬Misread exportRouter t r.device subst) ∧
            ∀ device ip read,
              Reads.answer exportRouter (readExportAttachment device (Ipv4.addrText ip)) =
              .ok read →
                NeedsKept read.policies ([exportListRequest "L2", exportListRequest "L1"].filterMap
                  (exportChange device (Ipv4.addrText ip)))) := by
  have hrun : sequenceVerdict exportRouter [exportListRequest "L2", exportListRequest "L1"] =
      some (true, .ok true) := by decide +kernel
  obtain ⟨actions, hactions, -, -⟩ := exists_of_sequenceVerdict hrun
  exact ⟨actions, hactions, verified_iff (fun _ => none) .configurationOnly exportRouter _
    actions hactions⟩

end Rerouter
