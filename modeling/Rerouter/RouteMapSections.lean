import Rerouter.Lib.Sections
import Rerouter.PolicyInventory

/-!
# The sections of the route maps, and the clauses that are made of them

The reader of the route maps keeps the clause it is in as its state: a line `route-map NAME ACTION
NUMBER` opens a clause, and a `match` or `set` line is put into the one that was opened last
(`Rerouter.MapScan.read`). Any other line it passes over. So a heading it does not know leaves the
lines behind it to the clause before, and a statement it does not know is missing from its clause;
of neither does it report a blocker.

Read off the text (`Rerouter.Sections.sections`), a clause is a heading with what stands up to the
next line that starts with `route-map`. **Where no blocker is reported, the clauses are those of the
sections, line for line, exactly if every heading has its four words and every line of a section
that is no comment is a `match` or a `set`** (`Rerouter.represented_iff_recognised`).
-/

namespace Rerouter

open Text Gather Sections

/-! ### The lines of a section -/

/-- A line that starts a section. -/
def isHeading (line : Text) : Bool := (splitWhitespace line).head? = some ("route-map" : Text)

/-- A line that says nothing. -/
def isComment (line : Text) : Bool := trim line = [] || startsWith "!" (trim line)

/-- The term of a `match` line. -/
def matchTerm (line : Text) : Option PolicyTerm :=
  (stripPrefix "match " (trim line)).map fun v => ⟨termKind 3 v, v⟩

/-- The term of a `set` line. -/
def setTerm (line : Text) : Option PolicyTerm :=
  (stripPrefix "set " (trim line)).map fun v => ⟨termKind 2 v, v⟩

/-- The name on a heading. -/
def headingName (line : Text) : Option Text := (splitWhitespace line)[1]?

/-- A heading and the lines behind it are the clause of a map: its number and action are those of
the heading, its terms are those of the lines, in their order, and every line that is no comment is
one. -/
structure Represents (s : Text × List Text) (c : RouteMapClause) : Prop where
  heading : ∃ name action sequence, splitWhitespace s.1 = [("route-map" : Text), name,
    action, sequence] ∧
    permitDeny action = some c.action ∧ parseUnsigned maxU32 sequence = some c.sequence
  conditions : c.conditions = s.2.filterMap matchTerm
  sets : c.sets = s.2.filterMap setTerm
  body : ∀ line ∈ s.2, isComment line = false → (matchTerm line).isSome = true ∨
    (setTerm line).isSome = true

/-- The clauses of a map of an inventory. -/
def clausesIn (maps : List NamedRouteMap) (name : Text) : List RouteMapClause :=
  ((maps.find? fun m => m.name = name).map NamedRouteMap.clauses).getD []

/-- **The route maps are represented**: every section has a name, and the sections of a name are the
clauses of the map of that name, one by one. -/
def Represented (routeMaps : Text) (maps : List NamedRouteMap) : Prop :=
  (∀ s ∈ sections isHeading (lines routeMaps), (headingName s.1).isSome = true) ∧
    ∀ name, List.Forall₂ Represents
      ((sections isHeading (lines routeMaps)).filter fun s => headingName s.1 = some name)
      (clausesIn maps name)

/-- A section the reader knows in full: the heading has a name, an action and a number and nothing
more, and every line that is no comment is a `match` or a `set`. -/
def Recognised (s : Text × List Text) : Prop :=
  (splitWhitespace s.1).length = 4 ∧
    ∀ line ∈ s.2, isComment line = false →
      startsWith "match " (trim line) = true ∨ startsWith "set " (trim line) = true

variable {st : MapScan} {line name : Text} {body : List Text} {s : Text × List Text}

/-! ### The clauses so far -/

/-- The clauses of a map so far. -/
def MapScan.clauses (st : MapScan) (name : Text) : List RouteMapClause :=
  ((st.maps[name]?).map NamedRouteMap.clauses).getD []

/-- What a line adds to the clause it is in. -/
def addTerm (line : Text) (c : RouteMapClause) : RouteMapClause :=
  { c with
    conditions := c.conditions ++ (matchTerm line).toList
    sets := c.sets ++ (setTerm line).toList }

/-- What several lines add. -/
def addTerms (body : List Text) (c : RouteMapClause) : RouteMapClause :=
  { c with
    conditions := c.conditions ++ body.filterMap matchTerm
    sets := c.sets ++ body.filterMap setTerm }

/-- The clauses, with the active one changed. -/
def MapScan.changed (st : MapScan) (f : RouteMapClause → RouteMapClause)
    (name : Text) : List RouteMapClause :=
  match st.active with
  | some (active, idx) => if active = name then (st.clauses name).modify idx f else st.clauses name
  | none => st.clauses name

/-- What is done to the clauses shows in the active one. -/
theorem MapScan.clauses_modifyActive (f : RouteMapClause → RouteMapClause) :
    (st.modifyActive f).clauses name = st.changed f name := by
  cases hactive : st.active with
  | none => rw [modifyActive, changed, hactive]
  | some active =>
    obtain ⟨active, idx⟩ := active
    rw [modifyActive, changed, hactive]
    dsimp only
    rw [clauses, Std.TreeMap.getElem?_modify]
    by_cases hname : active = name
    · obtain rfl := hname
      have hcompare : compare active active = .eq := Std.ReflCmp.compare_self
      rw [if_pos rfl, if_pos hcompare, clauses]
      cases st.maps[active]? with
      | none => simp
      | some m => rfl
    · have hcompare : compare active name ≠ .eq :=
        fun heq => hname (Std.LawfulEqCmp.eq_of_compare heq)
      rw [if_neg hcompare, if_neg hname]
      rfl

theorem MapScan.active_modifyActive (f : RouteMapClause → RouteMapClause) :
    (st.modifyActive f).active = st.active := by
  unfold modifyActive
  split
  · rfl
  · rfl

theorem MapScan.changed_of_id {f : RouteMapClause → RouteMapClause} (hf : ∀ c, f c = c) :
    st.changed f name = st.clauses name := by
  have hid : f = id := funext hf
  unfold changed
  split
  · split
    · rw [hid, List.modify_id]
    · rfl
  · rfl

/-- Two changes of the active clause, one after the other. -/
theorem MapScan.changed_changed {st' : MapScan} {f g : RouteMapClause → RouteMapClause}
    (hactive : st'.active = st.active) (hclauses : ∀ name, st'.clauses name = st.changed f name) :
    st'.changed g name = st.changed (fun c => g (f c)) name := by
  have hname := hclauses name
  unfold changed at hname ⊢
  rw [hactive]
  split
  · rename_i active idx hst
    rw [hst] at hname
    dsimp only at hname
    rw [hname]
    split
    · rw [List.modify_modify_eq]
      rfl
    · rfl
  · rename_i hst
    rw [hst] at hname
    exact hname

/-- A line that is no heading adds its term to the clause it is in, if it is one. -/
theorem MapScan.read_of_not_heading (st : MapScan) (name : Text) (h : isHeading line = false) :
    (st.read line).active = st.active ∧ (st.read line).blockers = st.blockers ∧
      (st.read line).clauses name = st.changed (addTerm line) name := by
  have hread : st.read line = st.term line := by
    unfold read
    split
    · rename_i head name act seq hwords
      have hhead : ¬head = ("route-map" : Text) := by
        rw [isHeading, hwords] at h
        simpa using h
      rw [if_neg hhead]
    · rfl
  have hblockers : ∀ f, (st.modifyActive f).blockers = st.blockers := by
    intro f
    unfold modifyActive
    split
    · rfl
    · rfl
  rw [hread]
  unfold term
  split
  · rename_i v hmatch
    have hadd : addTerm line = fun c =>
      { c with conditions := c.conditions ++ [⟨termKind 3 v, v⟩] } := by
      have hset : setTerm line = none := by
        rw [setTerm, stripPrefix_eq_some.mp hmatch]
        rfl
      funext c
      rw [addTerm, hset, matchTerm, hmatch]
      simp
    rw [hadd]
    exact ⟨active_modifyActive _, hblockers _, clauses_modifyActive _⟩
  · rename_i hmatch
    split
    · rename_i v hset
      have hadd : addTerm line = fun c => { c with sets := c.sets ++ [⟨termKind 2 v, v⟩] } := by
        funext c
        rw [addTerm, setTerm, hset, matchTerm, hmatch]
        simp
      rw [hadd]
      exact ⟨active_modifyActive _, hblockers _, clauses_modifyActive _⟩
    · rename_i hset
      refine ⟨rfl, rfl, (changed_of_id fun c => ?_).symm⟩
      rw [addTerm, setTerm, hset, matchTerm, hmatch]
      simp

theorem addTerms_cons (line : Text) (body : List Text) (c : RouteMapClause) :
    addTerms (line :: body) c = addTerms body (addTerm line c) := by
  cases hmatch : matchTerm line <;> cases hset : setTerm line <;>
    simp [addTerms, addTerm, hmatch, hset]

/-- **The lines behind a heading all go to the clause it opened.** -/
theorem MapScan.foldl_body (st : MapScan) (h : ∀ line ∈ body, isHeading line = false) :
    (body.foldl MapScan.read st).active = st.active ∧ (body.foldl MapScan.read st).blockers =
    st.blockers ∧
      ∀ name, (body.foldl MapScan.read st).clauses name = st.changed (addTerms body) name := by
  induction body generalizing st with
  | nil =>
    refine ⟨rfl, rfl, fun name => (changed_of_id fun c => ?_).symm⟩
    simp [addTerms]
  | cons line body ih =>
    have hline := h line List.mem_cons_self
    obtain ⟨hactive, hblockers, hclauses⟩ :=
      ih (st.read line) fun l hl => h l (List.mem_cons_of_mem _ hl)
    have hread := fun name => read_of_not_heading st name hline
    refine ⟨hactive.trans (hread []).1, hblockers.trans (hread []).2.1, fun name => ?_⟩
    rw [List.foldl_cons, hclauses, changed_changed (hread []).1 fun name => (hread name).2.2]
    exact congrArg (fun f => st.changed f name) (funext fun c => (addTerms_cons line body c).symm)

theorem modify_length_append {A : Type} (f : A → A) (l : List A) (a : A) :
    (l ++ [a]).modify l.length f = l ++ [f a] := by
  induction l with
  | nil => rfl
  | cons b l ih =>
    rw [List.cons_append, List.length_cons, List.modify_succ_cons, ih, List.cons_append]

/-- **A section with a proper heading is a clause more of its map.** -/
theorem MapScan.foldl_section (st : MapScan) {name' action sequence : Text}
    {verdict : PermitDeny} {number : ℕ}
    (hwords : splitWhitespace s.1 = [("route-map" : Text), name', action, sequence])
    (haction : permitDeny action = some verdict)
    (hsequence : parseUnsigned maxU32 sequence = some number)
    (hbody : ∀ line ∈ s.2, isHeading line = false) (name : Text) :
    ((s.1 :: s.2).foldl MapScan.read st).clauses name = st.clauses name ++
      if name' = name then [⟨number, verdict, s.2.filterMap matchTerm, s.2.filterMap setTerm⟩]
        else [] := by
  have hopen : st.read s.1 =
      { st with
        maps := st.maps.insert name'
          { (st.maps[name']?).getD ⟨name', []⟩ with
            clauses := ((st.maps[name']?).getD ⟨name', []⟩).clauses ++ [⟨number, verdict, [], []⟩] }
        active := some (name', ((st.maps[name']?).getD ⟨name', []⟩).clauses.length) } := by
    rw [read, hwords]
    dsimp only
    rw [if_pos rfl, clause, haction]
    dsimp only
    rw [hsequence]
  have hold : ((st.maps[name']?).getD ⟨name', []⟩).clauses = st.clauses name' := by
    rw [clauses]
    cases st.maps[name']? <;> rfl
  rw [hold] at hopen
  obtain ⟨-, -, hclauses⟩ := foldl_body (st.read s.1) hbody
  have hactive : (st.read s.1).active = some (name', (st.clauses name').length) := by
    rw [hopen]
  rw [List.foldl_cons, hclauses, changed, hactive]
  dsimp only
  by_cases hname : name' = name
  · obtain rfl := hname
    have hnew : (st.read s.1).clauses name' = st.clauses name' ++ [⟨number, verdict, [], []⟩] := by
      rw [hopen, clauses, Std.TreeMap.getElem?_insert_self]
      rfl
    rw [if_pos rfl, if_pos rfl, hnew, modify_length_append]
    simp [addTerms]
  · have hcompare : compare name' name ≠ .eq := fun heq => hname (Std.LawfulEqCmp.eq_of_compare heq)
    rw [if_neg hname, if_neg hname, List.append_nil, hopen, clauses, Std.TreeMap.getElem?_insert,
      if_neg hcompare]
    rfl

/-- A heading with four words is read, or reported. -/
def HeadingRead (line : Text) : Prop :=
  ∀ name action sequence, splitWhitespace line = [("route-map" : Text), name, action, sequence] →
    (permitDeny action).isSome = true ∧ (parseUnsigned maxU32 sequence).isSome = true

/-- **Every section is a clause of its map**, where its heading has four words that are read. -/
theorem MapScan.foldl_sections (st : MapScan) {ss : List (Text × List Text)}
    (hheading : ∀ s ∈ ss, isHeading s.1 = true ∧ HeadingRead s.1 ∧
      ∀ line ∈ s.2, isHeading line = false)
    (hknown : ∀ s ∈ ss, Recognised s) (name : Text) :
    ∃ cs, ((ss.flatMap fun s => s.1 :: s.2).foldl MapScan.read st).clauses name =
      st.clauses name ++ cs ∧
      List.Forall₂ Represents (ss.filter fun s => headingName s.1 = some name) cs := by
  induction ss generalizing st with
  | nil => exact ⟨[], (List.append_nil _).symm, List.Forall₂.nil⟩
  | cons s ss ih =>
    obtain ⟨hhead, hread, hbody⟩ := hheading s List.mem_cons_self
    obtain ⟨hlength, hlines⟩ := hknown s List.mem_cons_self
    obtain ⟨name', action, sequence, hwords⟩ : ∃ name' action sequence,
        splitWhitespace s.1 = [("route-map" : Text), name', action, sequence] := by
      obtain ⟨a, b, c, d, habcd⟩ := List.length_eq_four.mp hlength
      rw [isHeading, habcd] at hhead
      obtain rfl : a = ("route-map" : Text) := by simpa using hhead
      exact ⟨b, c, d, habcd⟩
    obtain ⟨haction, hsequence⟩ := hread name' action sequence hwords
    obtain ⟨verdict, hverdict⟩ := Option.isSome_iff_exists.mp haction
    obtain ⟨number, hnumber⟩ := Option.isSome_iff_exists.mp hsequence
    obtain ⟨cs, hcs, hforall⟩ := ih ((s.1 :: s.2).foldl read st)
      (fun t ht => hheading t (List.mem_cons_of_mem s ht)) fun t ht =>
      hknown t (List.mem_cons_of_mem s ht)
    have hsection := foldl_section st hwords hverdict hnumber hbody name
    have hname : headingName s.1 = some name' := by
      rw [headingName, hwords]
      rfl
    rw [List.flatMap_cons, List.foldl_append, hcs, hsection, List.append_assoc]
    refine ⟨_, rfl, ?_⟩
    by_cases hsame : name' = name
    · rw [if_pos hsame, List.filter_cons_of_pos (by simp [hname, hsame])]
      refine List.Forall₂.cons ⟨⟨name', action, sequence, hwords, hverdict, hnumber⟩, rfl,
        rfl, ?_⟩ hforall
      intro line hline hcomment
      rcases hlines line hline hcomment with hmatch | hset
      · refine Or.inl ?_
        rw [matchTerm, Option.isSome_map]
        exact hmatch
      · refine Or.inr ?_
        rw [setTerm, Option.isSome_map]
        exact hset
    · rw [if_neg hsame, List.filter_cons_of_neg (by simp [hname, hsame])]
      exact hforall

/-! ### What is reported -/

theorem MapScan.blockers_modifyActive (f : RouteMapClause → RouteMapClause) :
    (st.modifyActive f).blockers = st.blockers := by
  unfold modifyActive
  split
  · rfl
  · rfl

theorem MapScan.blockers_term : (st.term line).blockers = st.blockers := by
  unfold term
  split
  · exact blockers_modifyActive _
  · split
    · exact blockers_modifyActive _
    · rfl

/-- A heading with four words that is not read is reported. -/
theorem MapScan.blockers_read (h : (st.read line).blockers = []) :
    st.blockers = [] ∧ HeadingRead line := by
  unfold read at h
  split at h
  · rename_i head name action sequence hwords
    have hread : ∀ {name' action' sequence' : Text},
        splitWhitespace line = [("route-map" : Text), name', action', sequence'] →
          head = ("route-map" : Text) ∧ name' = name ∧ action' = action ∧ sequence' = sequence := by
      intro name' action' sequence' hwords'
      rw [hwords] at hwords'
      simp only [List.cons.injEq, and_true] at hwords'
      exact ⟨hwords'.1, hwords'.2.1.symm, hwords'.2.2.1.symm, hwords'.2.2.2.symm⟩
    split at h
    · unfold clause at h
      split at h
      · exact absurd h (by simp)
      · rename_i verdict haction
        split at h
        · exact absurd h (by simp)
        · rename_i number hnumber
          refine ⟨h, fun name' action' sequence' hwords' => ?_⟩
          obtain ⟨-, -, rfl, rfl⟩ := hread hwords'
          exact ⟨by rw [haction]; rfl, by rw [hnumber]; rfl⟩
    · rename_i hhead
      rw [blockers_term] at h
      exact ⟨h, fun name' action' sequence' hwords' => absurd (hread hwords').1 hhead⟩
  · rename_i hother
    rw [blockers_term] at h
    exact ⟨h, fun name' action' sequence' hwords' => absurd hwords' (hother _ _ _ _)⟩

theorem MapScan.blockers_foldl {ls : List Text} (h : (ls.foldl MapScan.read st).blockers = []) :
    st.blockers = [] ∧ ∀ line ∈ ls, HeadingRead line := by
  induction ls generalizing st with
  | nil => exact ⟨h, nofun⟩
  | cons line ls ih =>
    obtain ⟨hread, hrest⟩ := ih h
    obtain ⟨hnone, hline⟩ := blockers_read hread
    exact ⟨hnone, List.forall_mem_cons.mpr ⟨hline, hrest⟩⟩

/-! ### The maps by name -/

/-- A map is kept under its name. -/
def MapScan.Named (st : MapScan) : Prop :=
  ∀ (name : Text) (m : NamedRouteMap), st.maps[name]? = some m → m.name = name

theorem MapScan.Named.modifyActive (h : st.Named) (f : RouteMapClause → RouteMapClause) :
    (st.modifyActive f).Named := by
  unfold MapScan.modifyActive
  split
  · rename_i active idx hactive
    intro name m hm
    rw [Std.TreeMap.getElem?_modify] at hm
    split at hm
    · rename_i heq
      obtain rfl := Std.LawfulEqCmp.eq_of_compare heq
      obtain ⟨old, hold, rfl⟩ := Option.map_eq_some_iff.mp hm
      exact h active old hold
    · exact h name m hm
  · exact h

theorem MapScan.Named.read (h : st.Named) (line : Text) : (st.read line).Named := by
  have hterm : (st.term line).Named := by
    unfold MapScan.term
    split
    · exact h.modifyActive _
    · split
      · exact h.modifyActive _
      · exact h
  unfold MapScan.read
  split
  · rename_i head name action sequence hwords
    split
    · unfold MapScan.clause
      split
      · exact h
      · split
        · exact h
        · intro name' m hm
          rw [Std.TreeMap.getElem?_insert] at hm
          split at hm
          · rename_i heq
            obtain rfl := Std.LawfulEqCmp.eq_of_compare heq
            obtain rfl := Option.some.inj hm
            cases hold : st.maps[name]? with
            | none => rfl
            | some old => exact h name old hold
          · exact h name' m hm
    · exact hterm
  · exact hterm

theorem MapScan.Named.foldl (h : st.Named) (ls : List Text) : (ls.foldl MapScan.read st).Named := by
  induction ls generalizing st with
  | nil => exact h
  | cons line ls ih => exact ih (h.read line)

/-- The clauses of a map of the inventory are those of the scan. -/
theorem MapScan.Named.clausesIn (h : st.Named) (name : Text) :
    clausesIn st.maps.values name = st.clauses name := by
  rw [Rerouter.clausesIn, MapScan.clauses]
  cases hfind : st.maps.values.find? fun m => m.name = name with
  | none =>
    cases hget : st.maps[name]? with
    | none => rfl
    | some m =>
      have hname := List.find?_eq_none.mp hfind m (mem_values.mpr ⟨name, hget⟩)
      exact absurd (h name m hget) (by simpa using hname)
  | some m =>
    obtain ⟨key, hkey⟩ := mem_values.mp (List.mem_of_find?_eq_some hfind)
    have hname : m.name = name := by simpa using List.find?_some hfind
    rw [← hname, h key m hkey, hkey]

/-! ### The law of the reader -/

variable {bgp routeMaps prefixLists : Text}

theorem exists_of_forall₂ {A B : Type} {R : A → B → Prop} {as : List A} {bs : List B}
    (h : List.Forall₂ R as bs) {a : A} (ha : a ∈ as) : ∃ b, R a b := by
  induction h with
  | nil => exact absurd ha List.not_mem_nil
  | cons hab _ ih =>
    rcases List.mem_cons.mp ha with rfl | ha
    · exact ⟨_, hab⟩
    · exact ih ha

/-- What is represented was known. -/
theorem Represents.recognised {c : RouteMapClause} (h : Represents s c) : Recognised s := by
  obtain ⟨name, action, sequence, hwords, -, -⟩ := h.heading
  refine ⟨by rw [hwords]; rfl, fun line hline hcomment => ?_⟩
  rcases h.body line hline hcomment with hmatch | hset
  · rw [matchTerm, Option.isSome_map] at hmatch
    exact Or.inl hmatch
  · rw [setTerm, Option.isSome_map] at hset
    exact Or.inr hset

/-- **Where no blocker is reported, the sections of the route maps are represented by the clauses of
the inventory exactly if the reader knows every one of them in full.** -/
theorem represented_iff_recognised (h : (parseInventory bgp routeMaps prefixLists).blockers = []) :
    Represented routeMaps (parseInventory bgp routeMaps prefixLists).routeMaps ↔
      ∀ s ∈ sections isHeading (lines routeMaps), Recognised s := by
  have hnone : ((lines routeMaps).foldl MapScan.read ⟨∅, none, []⟩).blockers = [] := by
    have hall := List.append_eq_nil_iff.mp h
    exact (List.append_eq_nil_iff.mp
      (List.append_eq_nil_iff.mp (List.append_eq_nil_iff.mp hall.1).1).1).2
  obtain ⟨-, hread⟩ := MapScan.blockers_foldl hnone
  have hsections : ∀ s ∈ sections isHeading (lines routeMaps),
      isHeading s.1 = true ∧ HeadingRead s.1 ∧ ∀ line ∈ s.2, isHeading line = false := fun s hs =>
    ⟨(of_mem_sections hs).1, hread _ (of_mem_sections hs).2.1, (of_mem_sections hs).2.2⟩
  have hnamed : (⟨∅, none, []⟩ : MapScan).Named := fun name m hm => by simp at hm
  have hclauses : ∀ name, clausesIn (parseInventory bgp routeMaps prefixLists).routeMaps name =
      ((lines routeMaps).foldl MapScan.read ⟨∅, none, []⟩).clauses name := fun name =>
    (hnamed.foldl (lines routeMaps)).clausesIn name
  constructor
  · rintro ⟨hname, hforall⟩ s hs
    obtain ⟨name, hsname⟩ := Option.isSome_iff_exists.mp (hname s hs)
    have hmem : s ∈ (sections isHeading (lines routeMaps)).filter fun s =>
      headingName s.1 = some name :=
      List.mem_filter.mpr ⟨hs, by simpa using hsname⟩
    obtain ⟨c, hc⟩ := exists_of_forall₂ (hforall name) hmem
    exact hc.recognised
  · intro hknown
    refine ⟨fun s hs => ?_, fun name => ?_⟩
    · obtain ⟨a, b, c, d, habcd⟩ := List.length_eq_four.mp (hknown s hs).1
      rw [headingName, habcd]
      rfl
    · have hfold : (lines routeMaps).foldl MapScan.read ⟨∅, none, []⟩ =
          ((sections isHeading (lines routeMaps)).flatMap fun s => s.1 :: s.2).foldl MapScan.read
            ((preamble isHeading (lines routeMaps)).foldl MapScan.read ⟨∅, none, []⟩) := by
        rw [← List.foldl_append, eq_append_flatMap]
      obtain ⟨hactive, -, hpre⟩ := MapScan.foldl_body ⟨∅, none, []⟩
        fun line hline => not_heading_of_mem_preamble hline
      obtain ⟨cs, hcs, hforall⟩ := MapScan.foldl_sections
        ((preamble isHeading (lines routeMaps)).foldl MapScan.read ⟨∅, none, []⟩)
        hsections hknown name
      have hempty : (⟨∅, none, []⟩ : MapScan).changed
        (addTerms (preamble isHeading (lines routeMaps))) name = [] := by
        simp [MapScan.changed, MapScan.clauses]
      rw [hclauses, hfold, hcs, hpre, hempty, List.nil_append]
      exact hforall

/-- A map whose second heading has lost its number. -/
def cutHeading : Text := "route-map EXPORT permit 10\n match ip address prefix-list A\n" ++
  "route-map EXPORT deny\n match ip address prefix-list B\n"

theorem blockers_cutHeading : (parseInventory "router bgp 65000" cutHeading []).blockers = [] := by
  decide +kernel

/-- The law on the map whose second heading has lost its number. -/
theorem represented_iff_recognised_cutHeading :
    Represented cutHeading (parseInventory "router bgp 65000" cutHeading []).routeMaps ↔
      ∀ s ∈ sections isHeading (lines cutHeading), Recognised s :=
  represented_iff_recognised blockers_cutHeading

/-- **A heading that is not recognised is passed over**: what it denies is put into the clause
before it, that permits, and no blocker is reported. -/
theorem cutHeading_not_represented :
    (parseInventory "router bgp 65000" cutHeading []).blockers = [] ∧
    clausesIn (parseInventory "router bgp 65000" cutHeading []).routeMaps "EXPORT" =
      [⟨10, .permit, [⟨"ip_address_prefix-list", "ip address prefix-list A"⟩,
        ⟨"ip_address_prefix-list", "ip address prefix-list B"⟩], []⟩] ∧
    ¬Represented cutHeading (parseInventory "router bgp 65000" cutHeading []).routeMaps := by
  refine ⟨blockers_cutHeading, by decide +kernel, fun hrepresented => ?_⟩
  have hlength := (hrepresented.2 "EXPORT").length_eq
  exact absurd hlength (by decide +kernel)

end Rerouter
