import Mathlib.Algebra.Order.BigOperators.Group.List
import Mathlib.Algebra.Order.Group.Nat
import Rustylink.Foundation.FirstMatch
import Rustylink.Dns.Subdomain

/-!
# The order of the dynamic-domain maps

A hash map is iterated in an order of its own in each run.  The exact IPv4
table collects values under their key, so its order does not matter; the other
tables keep the first or the last entry that fits.
-/

namespace Rustylink.Dns

open Rustylink.Foundation Rustylink.Api

def SameMap : Option HashMap → Option HashMap → Prop := Option.Rel List.Perm

/-- The same setting up to the order of its dynamic-domain maps. -/
structure Reordered (setting other : VpnConnSetting) : Prop where
  dynamicDomain : SameMap other.dynamicDomain setting.dynamicDomain
  exactV4 :
    SameMap other.vpnDynamicDomainRouteSplit setting.vpnDynamicDomainRouteSplit
  exactV6 : SameMap other.v6VpnDynamicDomainRouteSplit
    setting.v6VpnDynamicDomainRouteSplit
  wildcardV4 : SameMap other.vpnWildcardDynamicDomainRouteSplit
    setting.vpnWildcardDynamicDomainRouteSplit
  suffixV4 : SameMap other.suffixWildcardDynamicDomainRouteSplit
    setting.suffixWildcardDynamicDomainRouteSplit

def SameSet (values others : List String) : Prop := ∀ v, v ∈ values ↔ v ∈ others

def SameAnswers (tables others : DynamicDomainTables) (name : String) : Prop :=
  Option.Rel SameSet (tables.lookupV4 name) (others.lookupV4 name) ∧
    Option.Rel SameSet (tables.lookupV6 name) (others.lookupV6 name)

def HashOrderFree (crates : TextCrates) (conn : VpnConnResponse)
    (localDns : Option String) (fullTunnel : Bool) : Prop :=
  ∀ setting other, Reordered conn.setting setting →
    Reordered conn.setting other → ∀ name, SameAnswers
      (DnsConfig.fromVpnConn crates { conn with setting := setting }
        localDns fullTunnel).dynamic
      (DnsConfig.fromVpnConn crates { conn with setting := other }
        localDns fullTunnel).dynamic
      name

/--
Keys that fit one name have the same values: in the IPv6 table keys that are
equal, in the other two a key and the keys above it, the suffix table only
where the wildcard table leaves it a name.
-/
structure Unambiguous (crates : TextCrates)
    (setting : VpnConnSetting) : Prop where
  exactV6 : ∀ a ∈ normalizedEntries crates setting.v6VpnDynamicDomainRouteSplit,
    ∀ b ∈ normalizedEntries crates setting.v6VpnDynamicDomainRouteSplit,
      a.1 = b.1 → SameSet a.2 b.2
  wildcardV4 :
    ∀ a ∈ normalizedEntries crates setting.vpnWildcardDynamicDomainRouteSplit,
    ∀ b ∈ normalizedEntries crates setting.vpnWildcardDynamicDomainRouteSplit,
      IsUnder a.1 b.1 → SameSet a.2 b.2
  suffixV4 :
    ∀ a ∈ normalizedEntries crates setting.suffixWildcardDynamicDomainRouteSplit,
    ∀ b ∈ normalizedEntries crates setting.suffixWildcardDynamicDomainRouteSplit,
      IsUnder a.1 b.1 →
      (∀ w ∈ normalizedEntries crates setting.vpnWildcardDynamicDomainRouteSplit,
        ¬ IsUnder a.1 w.1) → SameSet a.2 b.2

theorem SameSet.symm {values others : List String} (h : SameSet values others) :
    SameSet others values := fun v => (h v).symm

/-! ## What a map of the tables holds -/

variable {map : HashMap} {entry : String × List String} {name : String}

theorem any_key :
    (map.any fun old => old.1 = name) = (get map name).isSome := by
  rw [Bool.eq_iff_iff, get, Option.isSome_map, List.find?_isSome,
    List.any_eq_true]

theorem get_upsert (change : String × List String → String × List String)
    (hkey : ∀ old, old.1 = entry.1 → (change old).1 = entry.1) :
    get (if map.any fun old => old.1 = entry.1 then
        map.map fun old => if old.1 = entry.1 then change old else old
      else map ++ [entry]) name =
      if entry.1 = name then
        some (((map.find? fun old => old.1 = name).map fun old =>
          (change old).2).getD entry.2)
      else get map name := by
  have hsame : ((fun e : String × List String => decide (e.1 = name)) ∘
      fun old => if old.1 = entry.1 then change old else old) = fun e =>
          decide (e.1 = name) := by
    funext old
    by_cases hold : old.1 = entry.1 <;> simp [hold, hkey]
  rw [any_key]
  split
  · rename_i hany
    have hmap : get (map.map fun old =>
        if old.1 = entry.1 then change old else old) name =
        (map.find? fun e => e.1 = name).map fun old =>
          (if old.1 = entry.1 then change old else old).2 := by
      unfold get
      rw [List.find?_map, hsame, Option.map_map]
      rfl
    rw [hmap]
    cases hfind : map.find? fun e => e.1 = name with
    | none =>
        have hne : entry.1 ≠ name := by
          rintro rfl
          simp [get, hfind] at hany
        simp [hne, get, hfind]
    | some old =>
        have hold : old.1 = name := by simpa using List.find?_some hfind
        by_cases hname : entry.1 = name
        · simp [hold, hname]
        · simp [hold, hname, Ne.symm hname, get, hfind]
  · rename_i hany
    have happend : get (map ++ [entry]) name =
        (get map name).or (if entry.1 = name then some entry.2 else none) := by
      unfold get
      rw [List.find?_append]
      by_cases h :
        entry.1 = name <;> cases map.find? (fun e => e.1 = name) <;> simp [h]
    rw [happend]
    split
    · rename_i hname
      have hnone : map.find? (fun old => old.1 = name) = none := by
        rw [hname, Bool.not_eq_true, Option.isSome_eq_false_iff] at hany
        simpa [get] using hany
      simp [get, hnone]
    · simp

theorem get_extendEntry : get (extendEntry map entry) name =
    if entry.1 = name then some ((get map name).getD [] ++ entry.2)
      else get map name := by
  unfold extendEntry
  rw [get_upsert (fun old => (old.1, old.2 ++ entry.2)) fun old hold => hold]
  unfold get
  cases map.find? fun old => old.1 = name <;> simp

theorem get_insertEntry : get (insertEntry map entry) name =
    if entry.1 = name then some entry.2 else get map name := by
  unfold insertEntry
  rw [get_upsert (fun _ => entry) fun old hold => rfl]
  cases map.find? fun old => old.1 = name <;> simp

variable {entries : HashMap}

theorem isSome_get_foldl :
    (get (entries.foldl extendEntry map) name).isSome = true ↔
    (get map name).isSome = true ∨ ∃ e ∈ entries, e.1 = name := by
  induction entries generalizing map with
  | nil => simp
  | cons entry entries ih =>
      rw [List.foldl_cons, ih, get_extendEntry]
      by_cases h : entry.1 = name <;> simp [h]

theorem mem_get_foldl {v : String} :
    v ∈ (get (entries.foldl extendEntry map) name).getD [] ↔
    v ∈ (get map name).getD [] ∨ ∃ e ∈ entries, e.1 = name ∧ v ∈ e.2 := by
  induction entries generalizing map with
  | nil => simp
  | cons entry entries ih =>
      rw [List.foldl_cons, ih, get_extendEntry]
      by_cases h : entry.1 = name
      · simp only [h, if_true, Option.getD_some, List.mem_append, List.mem_cons,
          exists_eq_or_imp, true_and, or_assoc]
      · simp [h]

theorem get_foldl_insertEntry : get (entries.foldl insertEntry map) name =
    ((entries.reverse.find? fun e => e.1 = name).map Prod.snd).or
    (get map name) := by
  induction entries generalizing map with
  | nil => simp
  | cons entry entries ih =>
      rw [List.foldl_cons, ih, get_insertEntry, List.reverse_cons,
        List.find?_append]
      by_cases h : entry.1 = name <;>
        cases entries.reverse.find? (fun e => e.1 = name) <;> simp [h]

/-! ## The tables under a new order -/

variable {crates : TextCrates} {conn : VpnConnResponse}
  {localDns : Option String}
  {fullTunnel : Bool} {setting other : VpnConnSetting} {m m' : Option HashMap}

def normalizeEntry (crates : TextCrates) (entry : String × List String) :
    Option (String × List String) :=
  if normalizeDomain crates entry.1 = "" then none
  else some (normalizeDomain crates entry.1, entry.2)

theorem normalizedEntries_eq (m : Option HashMap) :
    normalizedEntries crates m =
      (m.getD []).filterMap (normalizeEntry crates) := rfl

theorem normalizedEntries_key {e : String × List String}
    (h : e ∈ normalizedEntries crates m) : e.1 ≠ "" := by
  rw [normalizedEntries_eq] at h
  obtain ⟨raw, -, hraw⟩ := List.mem_filterMap.mp h
  unfold normalizeEntry at hraw
  split at hraw
  · cases hraw
  · rename_i hne
    cases hraw
    exact hne

theorem SameMap.refl (m : Option HashMap) : SameMap m m := by
  cases m with
  | none => exact .none
  | some l => exact .some (List.Perm.refl l)

theorem SameMap.perm (h : SameMap m' m) : (m'.getD []).Perm (m.getD []) := by
  cases h with
  | some hperm => exact hperm
  | none => exact List.Perm.refl _

theorem SameMap.normalized (crates : TextCrates) (h : SameMap m' m) :
    (normalizedEntries crates m').Perm (normalizedEntries crates m) := by
  rw [normalizedEntries_eq, normalizedEntries_eq]
  exact h.perm.filterMap _

theorem exists_sameMap {l : HashMap} (h : l.Perm (m.getD [])) :
    ∃ m', SameMap m' m ∧ m'.getD [] = l := by
  cases m with
  | none => exact ⟨none, .none, (List.Perm.eq_nil h).symm⟩
  | some _ => exact ⟨some l, .some h, rfl⟩

theorem rel_orElse {α : Type} {R : α → α → Prop} {a b c d : Option α}
    (h : Option.Rel R a b) (h' : a = none → Option.Rel R c d) :
    Option.Rel R (a <|> c) (b <|> d) := by
  cases h with
  | some hab => exact .some hab
  | none => exact h' rfl

theorem rel_map_snd {a b : Option (String × List String)} :
    Option.Rel SameSet (a.map Prod.snd) (b.map Prod.snd) ↔
      Option.Rel (fun a b => SameSet a.2 b.2) a b := by
  constructor
  · intro h
    cases a <;> cases b <;> cases h
    · exact .none
    · rename_i h
      exact .some h
  · rintro (h | _)
    · exact .some h
    · exact .none

theorem rel_sameSet_of {a b : Option (List String)}
    (hsome : a.isSome = true ↔ b.isSome = true)
    (hmem : ∀ v, v ∈ a.getD [] ↔ v ∈ b.getD []) : Option.Rel SameSet a b := by
  cases a <;> cases b
  · exact .none
  · simp at hsome
  · simp at hsome
  · exact .some hmem

theorem exactV4_rel {l l' : HashMap} (h : l.Perm l') (name : String) :
    Option.Rel SameSet (get (l.foldl extendEntry []) name)
      (get (l'.foldl extendEntry []) name) := by
  apply rel_sameSet_of
  · simp only [isSome_get_foldl, h.mem_iff]
  · intro v
    simp only [mem_get_foldl, h.mem_iff]

theorem get_exactV6 {l : HashMap} (name : String) :
    get (l.foldl insertEntry []) name =
      (l.reverse.find? fun e => e.1 = name).map Prod.snd := by
  rw [get_foldl_insertEntry]
  exact Option.or_none

theorem underPattern_iff {pattern : String} (h : pattern ≠ "") :
    DynamicDomainTables.underPattern name pattern = true ↔
      IsUnder name pattern := by
  rw [underPattern_iff_covers, Covers, and_iff_right h]

theorem lookupTable_eq_none {table : HashMap} (hkeys : ∀ e ∈ table, e.1 ≠ "") :
    DynamicDomainTables.lookupTable table name = none ↔
      ∀ e ∈ table, ¬ IsUnder name e.1 := by
  rw [lookupTable_none_iff]
  exact forall₂_congr fun e he => by rw [Covers, and_iff_right (hkeys e he)]

theorem Reordered.exact (crates : TextCrates) (h : Reordered setting other) :
    (normalizedEntries crates other.dynamicDomain ++
        normalizedEntries crates other.vpnDynamicDomainRouteSplit).Perm
      (normalizedEntries crates setting.dynamicDomain ++
        normalizedEntries crates setting.vpnDynamicDomainRouteSplit) :=
  (h.dynamicDomain.normalized crates).append (h.exactV4.normalized crates)

theorem agree_of_under {l : HashMap} (hkeys : ∀ e ∈ l, e.1 ≠ "")
    (h : ∀ a ∈ l, ∀ b ∈ l, IsUnder name a.1 → IsUnder a.1 b.1 →
      SameSet a.2 b.2) :
    ∀ a ∈ l, ∀ b ∈ l, DynamicDomainTables.underPattern name a.1 = true →
      DynamicDomainTables.underPattern name b.1 = true → SameSet a.2 b.2 := by
  intro a ha b hb hover hover'
  rw [underPattern_iff (hkeys a ha)] at hover
  rw [underPattern_iff (hkeys b hb)] at hover'
  rcases hover.comparable hover' with hunder | hunder
  · exact h a ha b hb hover hunder
  · exact (h b hb a ha hover' hunder).symm

theorem Unambiguous.hashOrderFree (h : Unambiguous crates conn.setting) :
    HashOrderFree crates conn localDns fullTunnel := by
  intro setting other hleft hright name
  constructor
  · apply rel_orElse
    · exact exactV4_rel ((hleft.exact crates).trans (hright.exact crates).symm)
        name
    · intro _
      apply rel_orElse
      · exact rel_map_snd.mpr (find?_rel_of_perm
          (agree_of_under (fun e => normalizedEntries_key)
            fun a ha b hb _ hunder => h.wildcardV4 a ha b hb hunder)
          (hleft.wildcardV4.normalized crates)
          (hright.wildcardV4.normalized crates))
      · intro hnone
        have huncovered :=
          (lookupTable_eq_none fun e => normalizedEntries_key).mp hnone
        refine rel_map_snd.mpr (find?_rel_of_perm
          (agree_of_under (fun e => normalizedEntries_key)
            fun a ha b hb hover hunder =>
              h.suffixV4 a ha b hb hunder fun w hw hcovered => ?_)
          (hleft.suffixV4.normalized crates)
          (hright.suffixV4.normalized crates))
        have hmem := (hleft.wildcardV4.normalized crates).mem_iff.mpr hw
        exact huncovered w hmem (hover.trans hcovered)
  · have hlast (s : VpnConnSetting) :
        (DnsConfig.fromVpnConn crates { conn with setting := s } localDns
          fullTunnel).dynamic.lookupV6 name =
          ((normalizedEntries crates
              s.v6VpnDynamicDomainRouteSplit).reverse.find? fun e =>
            e.1 = name).map Prod.snd := get_exactV6 name
    rw [hlast, hlast, rel_map_snd]
    refine find?_rel_of_perm (fun a ha b hb hfit hfit' => ?_)
      ((List.reverse_perm _).trans (hleft.exactV6.normalized crates))
      ((List.reverse_perm _).trans (hright.exactV6.normalized crates))
    exact h.exactV6 a ha b hb
      ((of_decide_eq_true hfit).trans (of_decide_eq_true hfit').symm)

/-! ## Orders that show an ambiguity -/

theorem exists_fresh (names patterns : List String) (key : String)
    (hkey : ∀ w ∈ patterns, ¬ IsUnder key w) :
    ∃ name, IsUnder name key ∧ name ∉ names ∧
      ∀ w ∈ patterns, ¬ IsUnder name w := by
  let bound := ((names ++ patterns).map String.length).sum
  have hbound : ∀ w ∈ names ++ patterns, w.length ≤ bound := fun w hw =>
    List.le_sum_of_mem (List.mem_map_of_mem hw)
  let label := String.ofList (List.replicate (bound + 1) 'a')
  have hlength : label.length = bound + 1 := by simp [label]
  have hlong : ∀ w ∈ names ++ patterns, label ++ "." ++ key ≠ w := by
    rintro w hw rfl
    have hle := hbound _ hw
    simp only [String.length_append, hlength] at hle
    omega
  refine ⟨label ++ "." ++ key, .inr ⟨label, rfl⟩,
    fun hmem => hlong _ (List.mem_append_left _ hmem) rfl,
    fun w hw hunder => ?_⟩
  rcases IsUnder.comparable (.inr ⟨label, rfl⟩ : IsUnder (label ++ "." ++ key)
      key) hunder with
    habove | rfl | ⟨front, rfl⟩
  · exact hkey w hw habove
  · exact hkey w hw (.inl rfl)
  · rcases hunder with heq | ⟨start, hstart⟩
    · exact hlong _ (List.mem_append_right _ hw) heq
    · -- the dot before `front` would be one of the letters of the label
      have htext : label.toList ++ '.' :: key.toList =
          (start.toList ++ '.' :: front.toList) ++ '.' :: key.toList := by
        simpa using congrArg String.toList hstart
      have hchars := List.append_cancel_right htext
      have hdot : '.' ∈ label.toList := by simp [hchars]
      simp [label] at hdot

theorem rel_left {α : Type} {R : α → α → Prop} {a b c d : Option α}
    (h : Option.Rel R (a <|> c) (b <|> d)) (ha : a ≠ none) (hb : b ≠ none) :
    Option.Rel R a b := by
  cases a with
  | none => exact absurd rfl ha
  | some _ =>
      cases b with
      | none => exact absurd rfl hb
      | some _ => exact h

theorem rel_right {α : Type} {R : α → α → Prop} {a b c d : Option α}
    (h : Option.Rel R (a <|> c) (b <|> d)) (ha : a = none) (hb : b = none) :
    Option.Rel R c d := by
  rw [ha, hb] at h
  exact h

theorem exactV4_none {l : HashMap} (h : name ∉ l.map Prod.fst) :
    get (l.foldl extendEntry []) name = none := by
  rw [← Option.not_isSome_iff_eq_none, isSome_get_foldl]
  rintro (hnone | ⟨e, he, rfl⟩)
  · cases hnone
  · exact h (List.mem_map_of_mem he)

theorem HashOrderFree.exactV6
    (h : HashOrderFree crates conn localDns fullTunnel) :
    ∀ a ∈ normalizedEntries crates conn.setting.v6VpnDynamicDomainRouteSplit,
      ∀ b ∈ normalizedEntries crates conn.setting.v6VpnDynamicDomainRouteSplit,
        a.1 = b.1 → SameSet a.2 b.2 := by
  intro a ha b hb hkey
  have hscan : ∀ l₁ l₂ : HashMap,
      l₁.Perm (conn.setting.v6VpnDynamicDomainRouteSplit.getD []) →
      l₂.Perm (conn.setting.v6VpnDynamicDomainRouteSplit.getD []) →
      Option.Rel (fun a b : String × List String => SameSet a.2 b.2)
        ((l₁.filterMap (normalizeEntry crates)).find? fun e => e.1 = a.1)
        ((l₂.filterMap (normalizeEntry crates)).find? fun e => e.1 = a.1) := by
    intro l₁ l₂ hperm₁ hperm₂
    -- the last entry wins, so the orders are turned round
    obtain ⟨m₁, hsame₁, hm₁⟩ :=
      exists_sameMap ((List.reverse_perm l₁).trans hperm₁)
    obtain ⟨m₂, hsame₂, hm₂⟩ :=
      exists_sameMap ((List.reverse_perm l₂).trans hperm₂)
    have hrel := (h { conn.setting with v6VpnDynamicDomainRouteSplit := m₁ }
      { conn.setting with v6VpnDynamicDomainRouteSplit := m₂ }
      ⟨.refl _, .refl _, hsame₁, .refl _, .refl _⟩
      ⟨.refl _, .refl _, hsame₂, .refl _, .refl _⟩ a.1).2
    have hlast (m : Option HashMap) (l : HashMap) (hm : m.getD [] = l.reverse) :
        get ((normalizedEntries crates m).foldl insertEntry []) a.1 =
          ((l.filterMap (normalizeEntry crates)).find? fun e => e.1 = a.1).map
              Prod.snd := by
      rw [get_exactV6, normalizedEntries_eq, hm, List.filterMap_reverse,
        List.reverse_reverse]
    rw [← rel_map_snd, ← hlast m₁ l₁ hm₁, ← hlast m₂ l₂ hm₂]
    exact hrel
  exact agree_of_find?_rel hscan a ha b hb (decide_eq_true rfl)
    (decide_eq_true hkey.symm)

theorem sameSet_of_lookupTable {a b : String × List String}
    (hscan : ∀ m₁ m₂, SameMap m₁ m → SameMap m₂ m →
      Option.Rel SameSet (DynamicDomainTables.lookupTable
        (normalizedEntries crates m₁) name)
        (DynamicDomainTables.lookupTable (normalizedEntries crates m₂) name))
    (ha : a ∈ normalizedEntries crates m) (hb : b ∈ normalizedEntries crates m)
    (hname : IsUnder name a.1) (hunder : IsUnder a.1 b.1) :
    SameSet a.2 b.2 := by
  have hfind : ∀ l₁ l₂ : HashMap, l₁.Perm (m.getD []) → l₂.Perm (m.getD []) →
      Option.Rel (fun a b : String × List String => SameSet a.2 b.2)
        ((l₁.filterMap (normalizeEntry crates)).find? fun e =>
          DynamicDomainTables.underPattern name e.1)
        ((l₂.filterMap (normalizeEntry crates)).find? fun e =>
          DynamicDomainTables.underPattern name e.1) := by
    intro l₁ l₂ hperm₁ hperm₂
    obtain ⟨m₁, hsame₁, rfl⟩ := exists_sameMap hperm₁
    obtain ⟨m₂, hsame₂, rfl⟩ := exists_sameMap hperm₂
    exact rel_map_snd.mp (hscan m₁ m₂ hsame₁ hsame₂)
  exact agree_of_find?_rel hfind a ha b hb
    ((underPattern_iff (normalizedEntries_key ha)).mpr hname)
    ((underPattern_iff (normalizedEntries_key hb)).mpr (hname.trans hunder))

theorem HashOrderFree.wildcardV4
    (h : HashOrderFree crates conn localDns fullTunnel) :
    ∀ a ∈ normalizedEntries crates conn.setting.vpnWildcardDynamicDomainRouteSplit,
      ∀ b ∈ normalizedEntries crates conn.setting.vpnWildcardDynamicDomainRouteSplit,
        IsUnder a.1 b.1 → SameSet a.2 b.2 := by
  intro a ha b hb hunder
  obtain ⟨name, hname, hexact, -⟩ := exists_fresh
    ((normalizedEntries crates conn.setting.dynamicDomain ++
      normalizedEntries crates conn.setting.vpnDynamicDomainRouteSplit).map
        Prod.fst) []
    a.1 (by simp)
  refine sameSet_of_lookupTable (fun m₁ m₂ hsame₁ hsame₂ => ?_)
    ha hb hname hunder
  have hrel := (h { conn.setting with vpnWildcardDynamicDomainRouteSplit := m₁ }
    { conn.setting with vpnWildcardDynamicDomainRouteSplit := m₂ }
    ⟨.refl _, .refl _, .refl _, hsame₁, .refl _⟩
    ⟨.refl _, .refl _, .refl _, hsame₂, .refl _⟩ name).1
  have hcovered (m : Option HashMap)
      (hsame : SameMap m conn.setting.vpnWildcardDynamicDomainRouteSplit) :
      DynamicDomainTables.lookupTable (normalizedEntries crates m) name ≠
          none := by
    rw [Ne, lookupTable_eq_none fun e => normalizedEntries_key]
    intro hnone
    exact hnone a ((hsame.normalized crates).mem_iff.mpr ha) hname
  exact rel_left (rel_right hrel (exactV4_none hexact) (exactV4_none hexact))
    (hcovered m₁ hsame₁) (hcovered m₂ hsame₂)

theorem HashOrderFree.suffixV4
    (h : HashOrderFree crates conn localDns fullTunnel) :
    ∀ a ∈ normalizedEntries crates conn.setting.suffixWildcardDynamicDomainRouteSplit,
      ∀ b ∈ normalizedEntries crates conn.setting.suffixWildcardDynamicDomainRouteSplit,
        IsUnder a.1 b.1 →
        (∀ w ∈ normalizedEntries crates conn.setting.vpnWildcardDynamicDomainRouteSplit,
          ¬ IsUnder a.1 w.1) → SameSet a.2 b.2 := by
  intro a ha b hb hunder huncovered
  obtain ⟨name, hname, hexact, hwild⟩ := exists_fresh
    ((normalizedEntries crates conn.setting.dynamicDomain ++
      normalizedEntries crates conn.setting.vpnDynamicDomainRouteSplit).map
        Prod.fst)
    ((normalizedEntries crates
      conn.setting.vpnWildcardDynamicDomainRouteSplit).map Prod.fst)
    a.1 (List.forall_mem_map.mpr huncovered)
  have hnone : DynamicDomainTables.lookupTable
      (normalizedEntries crates conn.setting.vpnWildcardDynamicDomainRouteSplit)
          name = none :=
    (lookupTable_eq_none fun e => normalizedEntries_key).mpr fun w hw =>
      hwild w.1 (List.mem_map_of_mem hw)
  refine sameSet_of_lookupTable (fun m₁ m₂ hsame₁ hsame₂ => ?_)
    ha hb hname hunder
  have hrel :=
    (h { conn.setting with suffixWildcardDynamicDomainRouteSplit := m₁ }
    { conn.setting with suffixWildcardDynamicDomainRouteSplit := m₂ }
    ⟨.refl _, .refl _, .refl _, .refl _, hsame₁⟩
    ⟨.refl _, .refl _, .refl _, .refl _, hsame₂⟩ name).1
  exact rel_right (rel_right hrel (exactV4_none hexact) (exactV4_none hexact))
    hnone hnone

/--
The answers are those of every order exactly when keys that fit one name agree.
-/
theorem hashOrderFree_iff (crates : TextCrates) (conn : VpnConnResponse)
    (localDns : Option String) (fullTunnel : Bool) :
    HashOrderFree crates conn localDns fullTunnel ↔
      Unambiguous crates conn.setting := by
  constructor
  · intro h
    exact ⟨h.exactV6, h.wildcardV4, h.suffixV4⟩
  · intro h
    exact h.hashOrderFree

def overlappingResponse : VpnConnResponse :=
  .ofSetting "10.0.0.2" "key"
    { VpnConnSetting.ofMtu 1400 with
      vpnWildcardDynamicDomainRouteSplit :=
        some [("corp.example", ["10.0.0.1"]),
          ("git.corp.example", ["10.0.0.2"])] }

def overlappingTurned : VpnConnSetting :=
  { VpnConnSetting.ofMtu 1400 with
    vpnWildcardDynamicDomainRouteSplit :=
      some [("git.corp.example", ["10.0.0.2"]),
        ("corp.example", ["10.0.0.1"])] }

theorem overlapping_not_free :
    ¬ HashOrderFree asciiCrates overlappingResponse none false := by
  intro h
  have hrel := (h overlappingResponse.setting overlappingTurned
    ⟨.refl _, .refl _, .refl _, .refl _, .refl _⟩
    ⟨.refl _, .refl _, .refl _, .some (List.Perm.swap ..), .refl _⟩
      "git.corp.example").1
  have hfirst :
      (DnsConfig.fromVpnConn asciiCrates overlappingResponse none
        false).dynamic.lookupV4
      "git.corp.example" = some ["10.0.0.1"] := by decide +kernel
  have hturned : (DnsConfig.fromVpnConn asciiCrates
      { overlappingResponse with setting := overlappingTurned }
        none false).dynamic.lookupV4
      "git.corp.example" = some ["10.0.0.2"] := by decide +kernel
  have hsame : Option.Rel SameSet (some ["10.0.0.1"]) (some ["10.0.0.2"]) := by
    rw [← hfirst, ← hturned]
    exact hrel
  cases hsame with
  | some hset => exact absurd ((hset "10.0.0.1").mp (by simp)) (by decide)

end Rustylink.Dns
