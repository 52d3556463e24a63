import Rustylink.Foundation.Glob
import Rustylink.Dns.Config

/-!
# Domains and their subdomains

The names that a domain of the split list covers.  The list is compiled to two
glob patterns for each domain, and together they match these names alone.
-/

namespace Rustylink.Dns

open Rustylink.Foundation Rustylink.Api

/-- The domain itself, or a name with more labels in front of it. -/
def IsUnder (name domain : String) : Prop :=
  name = domain ∨ ∃ front, name = front ++ "." ++ domain

variable {name domain : String}

theorem dot_suffix_iff :
    ("." ++ domain).toList <:+ name.toList ↔
      ∃ front, name = front ++ "." ++ domain := by
  constructor
  · rintro ⟨front, hfront⟩
    refine ⟨String.ofList front, ?_⟩
    rw [← String.toList_inj, ← hfront]
    simp
  · rintro ⟨front, rfl⟩
    exact ⟨front.toList, by simp⟩

theorem isUnder_iff_suffix :
    IsUnder name domain ↔ name = domain ∨
      ("." ++ domain).toList <:+ name.toList := by
  rw [IsUnder, dot_suffix_iff]

theorem isUnder_iff_dotted :
    IsUnder name domain ↔ '.' :: domain.toList <:+ '.' :: name.toList := by
  rw [isUnder_iff_suffix, List.suffix_cons_iff, List.cons.injEq,
    String.toList_inj]
  simp [eq_comm]

theorem IsUnder.trans {middle : String} (h : IsUnder name middle)
    (h' : IsUnder middle domain) :
    IsUnder name domain := by
  rw [isUnder_iff_dotted] at *
  exact List.IsSuffix.trans h' h

theorem IsUnder.comparable {other : String} (h : IsUnder name domain)
    (h' : IsUnder name other) :
    IsUnder domain other ∨ IsUnder other domain := by
  rw [isUnder_iff_dotted] at *
  rw [isUnder_iff_dotted]
  exact (List.suffix_or_suffix_of_suffix h h').symm

theorem IsUnder.label (h : IsUnder name domain) (label : String) :
    IsUnder (label ++ "." ++ name) domain := by
  rcases h with rfl | ⟨front, rfl⟩
  · exact .inr ⟨label, rfl⟩
  · exact .inr ⟨label ++ "." ++ front, by simp only [String.append_assoc]⟩

theorem IsUnder.labels (labels : List String) (domain : String) :
    IsUnder (labels.foldr (fun label name => label ++ "." ++ name) domain)
      domain := by
  induction labels with
  | nil => exact .inl rfl
  | cons label labels ih => exact ih.label label

theorem not_isUnder_of_letter {front : String} {c : Char} (hc : c ≠ '.') :
    ¬ IsUnder (front.push c ++ domain) domain := by
  rw [isUnder_iff_suffix]
  rintro (heq | ⟨start, hstart⟩)
  · have hlength := congrArg String.length heq
    simp at hlength
  · have htext : start ++ ['.'] ++ domain.toList = front.toList ++
        [c] ++ domain.toList := by
      simpa using hstart
    have hchars := List.append_cancel_right htext
    have hlast := List.append_inj_right' hchars rfl
    simp at hlast
    exact hc hlast.symm

/-! ## Keys of the tables -/

def Covers (key name : String) : Prop := key ≠ "" ∧ IsUnder name key

theorem underPattern_iff_covers (pattern : String) :
    DynamicDomainTables.underPattern name pattern = true ↔
      Covers pattern name := by
  simp [DynamicDomainTables.underPattern, Covers, isUnder_iff_suffix]

variable {table : HashMap}

theorem get_none_iff : get table name = none ↔ ∀ e ∈ table, e.1 ≠ name := by
  simp [get]

theorem lookupTable_none_iff :
    DynamicDomainTables.lookupTable table name = none ↔
      ∀ e ∈ table, ¬ Covers e.1 name := by
  simp only [DynamicDomainTables.lookupTable, Option.map_eq_none_iff,
    List.find?_eq_none, underPattern_iff_covers]

/-! ## The split list -/

variable (crates : TextCrates)

def Stored (conn : VpnConnResponse) (domain : String) : Prop :=
  ∃ raw ∈ conn.setting.vpnDnsDomainSplit.getD [], acceptDomain crates raw =
    some domain

/-- Glob matching as the standard has it. -/
def TextCrates.Globs (crates : TextCrates) : Prop :=
  ∀ pattern text, crates.wildMatch pattern text =
    globMatch pattern.toList text.toList

def Plain (domain : String) : Prop :=
  containsChar '*' domain = false ∧ containsChar '?' domain = false

variable {crates}

theorem Plain.literal (h : Plain domain) :
    ∀ c ∈ domain.toList, c ≠ '*' ∧ c ≠ '?' := by
  intro c hc
  obtain ⟨hstar, hany⟩ := h
  constructor
  · rintro rfl
    simp [containsChar, hc] at hstar
  · rintro rfl
    simp [containsChar, hc] at hany

theorem wildMatch_domain (hglob : crates.Globs) (h : Plain domain) :
    (crates.wildMatch domain name = true ∨
      crates.wildMatch ("*." ++ domain) name = true) ↔
      IsUnder name domain := by
  have hdotted : ∀ c ∈ ("." ++ domain).toList, c ≠ '*' ∧ c ≠ '?' := by
    intro c hc
    rw [String.toList_append] at hc
    rcases List.mem_append.mp hc with hdot | hdomain
    · obtain rfl : c = '.' := by simpa using hdot
      decide
    · exact h.literal c hdomain
  have hpattern : ("*." ++ domain).toList = '*' :: ("." ++ domain).toList := by
    simp
  rw [hglob, hglob, hpattern, globMatch_literal h.literal,
    globMatch_star_literal hdotted, isUnder_iff_suffix, String.toList_inj]

theorem mem_splitMatchers {conn : VpnConnResponse} {localDns : Option String}
    {fullTunnel : Bool} {pattern : String} :
    pattern ∈
      (DnsConfig.fromVpnConn crates conn localDns fullTunnel).splitMatchers ↔
      ∃ domain, Stored crates conn domain ∧
        (pattern = domain ∨ pattern = "*." ++ domain) := by
  simp only [DnsConfig.fromVpnConn, List.mem_flatMap, List.mem_eraseDups,
    List.mem_filterMap, Stored, List.mem_cons, List.not_mem_nil, or_false]

theorem matchesSplit_iff {conn : VpnConnResponse} {localDns : Option String}
    {fullTunnel : Bool} (hglob : crates.Globs)
    (hplain : ∀ domain, Stored crates conn domain → Plain domain)
    (query : String) :
    (DnsConfig.fromVpnConn crates conn localDns fullTunnel).matchesSplit crates
      query = true ↔
      ∃ domain, Stored crates conn domain ∧
        IsUnder (normalizeDomain crates query) domain := by
  unfold DnsConfig.matchesSplit
  simp only [List.any_eq_true, mem_splitMatchers]
  constructor
  · rintro ⟨pattern, ⟨domain, hstored, rfl | rfl⟩, hmatch⟩
    · exact ⟨pattern, hstored, (wildMatch_domain hglob (hplain _ hstored)).mp
        (.inl hmatch)⟩
    · exact ⟨domain, hstored, (wildMatch_domain hglob (hplain _ hstored)).mp
        (.inr hmatch)⟩
  · rintro ⟨domain, hstored, hunder⟩
    rcases (wildMatch_domain hglob (hplain domain hstored)).mpr hunder with
      hmatch | hmatch
    · exact ⟨domain, ⟨domain, hstored, .inl rfl⟩, hmatch⟩
    · exact ⟨"*." ++ domain, ⟨domain, hstored, .inr rfl⟩, hmatch⟩

/--
In split mode a query goes through the VPN exactly when its name is under a
stored domain: at any depth, and never on account of its letters alone.
-/
theorem split_routes_subdomains (hglob : crates.Globs) (conn : VpnConnResponse)
    (localDns : Option String) (fullTunnel : Bool)
    (hplain : ∀ domain, Stored crates conn domain → Plain domain)
    (query : String) :
    let config := DnsConfig.fromVpnConn crates conn localDns fullTunnel
    let name := normalizeDomain crates query
    (config.matchesSplit crates query = true ↔
      ∃ domain, Stored crates conn domain ∧ IsUnder name domain) ∧
    (config.routeThroughVpn crates (some query) = true ↔
      fullTunnel = true ∨ ∃ domain, Stored crates conn domain ∧
        IsUnder name domain) ∧
    (∀ (domain : String) (labels : List String), Stored crates conn domain →
      name = labels.foldr (fun label name => label ++ "." ++ name) domain →
      config.matchesSplit crates query = true) ∧
    ((∀ domain, Stored crates conn domain →
        ∃ (front : String) (c : Char), c ≠ '.' ∧
          name = front.push c ++ domain) →
      config.matchesSplit crates query = false) := by
  intro config name
  have hmatches : config.matchesSplit crates query = true ↔
      ∃ domain, Stored crates conn domain ∧ IsUnder name domain :=
    matchesSplit_iff hglob hplain query
  refine ⟨hmatches, ?_, ?_, ?_⟩
  · rw [← hmatches]
    exact Bool.or_eq_true_iff
  · intro domain labels hstored hname
    exact hmatches.mpr ⟨domain, hstored, hname ▸ IsUnder.labels labels domain⟩
  · intro hletters
    rw [← Bool.not_eq_true, hmatches]
    rintro ⟨domain, hstored, hunder⟩
    obtain ⟨front, c, hc, hname⟩ := hletters domain hstored
    rw [hname] at hunder
    exact not_isUnder_of_letter hc hunder

theorem routeThroughVpn_split (conn : VpnConnResponse)
    (localDns : Option String) (query : String) :
    (DnsConfig.fromVpnConn crates conn localDns false).routeThroughVpn crates
    (some query) =
      (DnsConfig.fromVpnConn crates conn localDns false).matchesSplit
        crates query :=
  Bool.false_or _

def asciiCrates : TextCrates where
  toLowercase := toAsciiLowercase
  parseUrl := fun _ => none
  wildMatch := fun pattern text => globMatch pattern.toList text.toList

def splitResponse : VpnConnResponse :=
  .ofSetting "10.0.0.2" "key"
    { VpnConnSetting.ofMtu 1400 with
      vpnDnsDomainSplit := some ["*.Corp.example.", "intranet"] }

theorem split_routes_corp :
    let config := DnsConfig.fromVpnConn asciiCrates splitResponse none false
    config.routeThroughVpn asciiCrates (some "A.Git.corp.example") = true ∧
      config.routeThroughVpn asciiCrates (some "evilcorp.example") = false := by
  have hcorp : acceptDomain asciiCrates "*.Corp.example." =
      some "corp.example" := by
    decide +kernel
  have hstored : ∀ domain, Stored asciiCrates splitResponse domain →
      domain = "corp.example" := by
    rintro domain ⟨raw, hraw, haccept⟩
    have hintranet : acceptDomain asciiCrates "intranet" = none := by
      decide +kernel
    rcases List.mem_cons.mp hraw with rfl | hraw
    · exact Option.some_inj.mp (haccept.symm.trans hcorp)
    · rw [List.mem_singleton.mp hraw, hintranet] at haccept
      cases haccept
  have hplain : ∀ domain, Stored asciiCrates splitResponse domain →
      Plain domain := by
    intro domain hdomain
    rw [hstored domain hdomain]
    exact ⟨by decide +kernel, by decide +kernel⟩
  have hglob : asciiCrates.Globs := fun _ _ => rfl
  intro config
  constructor
  · have hsub := (split_routes_subdomains hglob splitResponse none false hplain
      "A.Git.corp.example").2.2.1
    rw [routeThroughVpn_split]
    exact hsub "corp.example" ["a", "git"]
      ⟨"*.Corp.example.", List.mem_cons_self, hcorp⟩ (by decide +kernel)
  · have hletters :=
      (split_routes_subdomains hglob splitResponse none false hplain
      "evilcorp.example").2.2.2
    rw [routeThroughVpn_split]
    apply hletters
    intro domain hdomain
    rw [hstored domain hdomain]
    exact ⟨"evi", 'l', by decide, by decide +kernel⟩

end Rustylink.Dns
