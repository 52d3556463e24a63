import Rustylink.Dns.Subdomain
import Rustylink.Foundation.Trimming

/-!
# The normal form of a domain name

`normalize_domain` takes its layers off in a fixed order and once.  A second pass
finds nothing left exactly when the layers of the text lie in that order.  Lower
case does not interfere, since it leaves blanks, quotes, stars and dots as they
are and makes no new ones.
-/

namespace Rustylink.Dns

open Rustylink.Foundation

variable {p : Char → Bool} {cs ds : List Char}

/-! ## One pass -/

def trimDomain (cs : List Char) : List Char :=
  trimList (· = '.') (dropPairs '*' '.'
    (trimList (· = '\'') (trimList (· = '"') (trimList isWhitespace cs))))

theorem normalizeDomain_eq (crates : TextCrates) (s : String) :
    normalizeDomain crates s =
      crates.toLowercase (String.ofList (trimDomain s.toList)) := by
  simp only [normalizeDomain, trim, trimMatches, trimStartPair,
    trimStartMatches, trimEndMatches, String.toList_ofList]
  rfl

/--
Nothing to take off: no blank, quote or dot at an end, and no `*.` in front.
-/
structure Bare (cs : List Char) : Prop where
  blanks : Clean isWhitespace cs
  quotes : Clean (· = '"') cs
  apostrophes : Clean (· = '\'') cs
  stars : ¬ ['*', '.'] <+: cs
  dots : Clean (· = '.') cs

theorem Bare.trimDomain_eq (h : Bare cs) : trimDomain cs = cs := by
  rw [trimDomain, trimList_of_clean h.blanks, trimList_of_clean h.quotes,
    trimList_of_clean h.apostrophes, dropPairs_eq_self h.stars,
    trimList_of_clean h.dots]

theorem bare_of_trimDomain (h : trimDomain cs = cs) : Bare cs := by
  have hdots := trimList_sublist (· = '.')
  have hstars : ∀ cs, (trimList (· = '.') (dropPairs '*' '.' cs)).Sublist cs :=
    fun cs => (hdots _).trans (dropPairs_sublist '*' '.' cs)
  have happostrophes : ∀ cs, (trimList (· = '.') (dropPairs '*' '.'
      (trimList (· = '\'') cs))).Sublist cs :=
    fun cs => (hstars _).trans (trimList_sublist _ cs)
  have hquotes : ∀ cs, (trimList (· = '.') (dropPairs '*' '.'
      (trimList (· = '\'') (trimList (· = '"') cs)))).Sublist cs :=
    fun cs => (happostrophes _).trans (trimList_sublist _ cs)
  obtain ⟨hblanksEq, h⟩ :=
    eq_self_of_comp hquotes (trimList_sublist isWhitespace) h
  obtain ⟨hquotesEq, h⟩ := eq_self_of_comp happostrophes (trimList_sublist _) h
  obtain ⟨happostrophesEq, h⟩ := eq_self_of_comp hstars (trimList_sublist _) h
  obtain ⟨hstarsEq, h⟩ := eq_self_of_comp hdots (dropPairs_sublist '*' '.') h
  exact
    { blanks := clean_of_trimList_eq hblanksEq
      quotes := clean_of_trimList_eq hquotesEq
      apostrophes := clean_of_trimList_eq happostrophesEq
      stars := hstarsEq ▸ dropPairs_not_prefix '*' '.' cs
      dots := clean_of_trimList_eq h }

/-! ## The order of the layers -/

def InOrder (cs : List Char) : Prop :=
  ∃ quoted apostrophed starred dotted core,
    Around isWhitespace quoted cs ∧
    Around (· = '"') apostrophed quoted ∧
    Around (· = '\'') starred apostrophed ∧
    (∃ n, starred = (List.replicate n ['*', '.']).flatten ++ dotted) ∧
    Around (· = '.') core dotted ∧
    Bare core

theorem InOrder.of_bare (h : Bare (trimDomain cs)) : InOrder cs :=
  ⟨trimList isWhitespace cs, trimList (· = '"') (trimList isWhitespace cs),
    trimList (· = '\'') (trimList (· = '"') (trimList isWhitespace cs)),
    dropPairs '*' '.' (trimList (· = '\'')
      (trimList (· = '"') (trimList isWhitespace cs))),
    trimDomain cs, around_trimList _ _, around_trimList _ _,
      around_trimList _ _,
    exists_dropPairs _ _ _, around_trimList _ _, h⟩

theorem clean_stars {starred dotted core : List Char} {n : Nat}
    (hstarred : starred = (List.replicate n ['*', '.']).flatten ++ dotted)
    (hdotted : Around (· = '.') core dotted) (hcore : Clean p core)
    (hother : ∀ c, c = '*' ∨ c = '.' → p c = false) : Clean p starred := by
  have hpairs : Clean p (List.replicate n ['*', '.']).flatten :=
    .of_forall fun c hc => hother c (mem_pairs hc)
  rw [hstarred]
  exact hpairs.append (hdotted.clean hcore fun c hc =>
    hother c (.inr (of_decide_eq_true hc)))

theorem not_prefix_dots (h : ∀ c ∈ cs, decide (c = '.') = true) :
    ¬ ['*', '.'] <+: cs := by
  intro hpair
  have hstar := h '*' (hpair.subset (by simp))
  simp at hstar

theorem trimDots_dots (h : ∀ c ∈ cs, decide (c = '.') = true) :
    trimList (· = '.') (dropPairs '*' '.' cs) = [] := by
  rw [dropPairs_eq_self (not_prefix_dots h)]
  have htrim : trimList (· = '.') (cs ++ [] ++ []) = [] :=
    trimList_append .nil h (by simp)
  rwa [List.append_nil, List.append_nil] at htrim

theorem trimDots_eq {dotted core : List Char} (h : Around (· = '.') core dotted)
    (hcore : Bare core) :
    trimList (· = '.') (dropPairs '*' '.' dotted) = core ∨
      trimList (· = '.') (dropPairs '*' '.' dotted) = [] := by
  by_cases hpair : ['*', '.'] <+: dotted
  · right
    obtain ⟨front, back, rfl, hfront, hback⟩ := h
    -- only a lone star can make up a pair, with the first dot behind it
    match front, core with
    | c :: front, core =>
        have hstar := (List.cons_prefix_cons.mp hpair).1
        have hdot := hfront c List.mem_cons_self
        rw [← hstar] at hdot
        simp at hdot
    | [], [] => exact absurd hpair (not_prefix_dots hback)
    | [], [c] =>
        obtain ⟨rest, hrest⟩ := hpair
        simp only [List.cons_append, List.nil_append, List.cons.injEq] at hrest
        obtain ⟨rfl, rfl⟩ := hrest
        rw [List.nil_append, List.singleton_append, dropPairs_pair]
        exact trimDots_dots fun c hc => hback c (List.mem_cons_of_mem _ hc)
    | [], c :: d :: core =>
        exact absurd (pair_prefix_iff.mpr (pair_prefix_iff.mp hpair))
          hcore.stars
  · left
    rw [dropPairs_eq_self hpair]
    exact h.trimList_eq hcore.dots

theorem InOrder.bare (h : InOrder cs) : Bare (trimDomain cs) := by
  obtain ⟨quoted, apostrophed, starred, dotted, core, hblanks, hquotes,
      happostrophes, ⟨n, hstarred⟩, hdots, hcore⟩ := h
  have hblanksInside : Clean isWhitespace quoted :=
    hquotes.clean (happostrophes.clean (clean_stars hstarred hdots hcore.blanks
      (by rintro c (rfl | rfl) <;> rfl))
      (fun c hc => of_decide_eq_true hc ▸ rfl)) fun c hc =>
        of_decide_eq_true hc ▸ rfl
  have hquotesInside : Clean (· = '"') apostrophed :=
    happostrophes.clean (clean_stars hstarred hdots hcore.quotes
      (by rintro c (rfl | rfl) <;> rfl)) fun c hc => of_decide_eq_true hc ▸ rfl
  have happostrophesInside : Clean (· = '\'') starred :=
    clean_stars hstarred hdots hcore.apostrophes
      (by rintro c (rfl | rfl) <;> rfl)
  have hpass : trimDomain cs = trimList (· = '.')
      (dropPairs '*' '.' dotted) := by
    rw [trimDomain, hblanks.trimList_eq hblanksInside,
      hquotes.trimList_eq hquotesInside,
      happostrophes.trimList_eq happostrophesInside, hstarred,
      dropPairs_replicate]
  rw [hpass]
  rcases trimDots_eq hdots hcore with hleft | hleft
  · rw [hleft]
    exact hcore
  · rw [hleft]
    exact bare_of_trimDomain rfl

theorem trimDomain_idem_iff :
    trimDomain (trimDomain cs) = trimDomain cs ↔ InOrder cs :=
  ⟨fun h => .of_bare (bare_of_trimDomain h), fun h => h.bare.trimDomain_eq⟩

/-! ## Lower case -/

def isMark (c : Char) : Bool :=
  isWhitespace c || c = '"' || c = '\'' || c = '*' || c = '.'

theorem isMark_of_isWhitespace {c : Char} (h : isWhitespace c = true) :
    isMark c = true := by
  simp [isMark, h]

theorem isMark_of_eq {c : Char} (mark : Char) (hmark : isMark mark = true)
    (h : c = mark) :
    isMark c = true := h ▸ hmark

theorem isMark_iff {c : Char} : isMark c = true ↔
    isWhitespace c = true ∨ c.toNat = 34 ∨ c.toNat = 39 ∨ c.toNat = 42 ∨
      c.toNat = 46 := by
  simp only [isMark, Bool.or_eq_true, decide_eq_true_eq, ← Char.toNat_inj,
    or_assoc]
  rfl

theorem not_isMark_of_letter {c : Char}
    (h : 65 ≤ c.toNat ∧ c.toNat ≤ 90 ∨ 97 ≤ c.toNat ∧ c.toNat ≤ 122) :
    isMark c = false := by
  rw [← Bool.not_eq_true, isMark_iff]
  simp only [isWhitespace, Bool.or_eq_true, Bool.and_eq_true, decide_eq_true_eq]
  omega

theorem toLower_of_isMark {c : Char} (h : isMark c = true) : c.toLower = c := by
  rw [← Char.toNat_inj, toNat_toLower, if_neg]
  intro hletter
  rw [not_isMark_of_letter (.inl hletter)] at h
  cases h

theorem isMark_toLower (c : Char) : isMark c.toLower = isMark c := by
  by_cases hletter : 65 ≤ c.toNat ∧ c.toNat ≤ 90
  · have hlower : 97 ≤ c.toLower.toNat ∧ c.toLower.toNat ≤ 122 := by
      rw [toNat_toLower, if_pos hletter]
      omega
    rw [not_isMark_of_letter (.inr hlower), not_isMark_of_letter (.inl hletter)]
  · have hsame : c.toLower = c := by
      rw [← Char.toNat_inj, toNat_toLower, if_neg hletter]
    rw [hsame]

inductive Lowered : List Char → List Char → Prop
  | nil : Lowered [] []
  | mark {c : Char} {cs ds : List Char} (hmark : isMark c = true)
        (h : Lowered cs ds) :
      Lowered (c :: cs) (c :: ds)
  | letter {c : Char} {cs piece ds : List Char} (hmark : isMark c = false)
        (hne : piece ≠ [])
      (hpiece : ∀ d ∈ piece, isMark d = false) (h : Lowered cs ds) :
      Lowered (c :: cs) (piece ++ ds)

namespace Lowered

theorem append {cs' ds' : List Char} (h : Lowered cs ds)
    (h' : Lowered cs' ds') :
    Lowered (cs ++ cs') (ds ++ ds') := by
  induction h with
  | nil => exact h'
  | mark hmark _ ih => exact .mark hmark ih
  | letter hmark hne hpiece _ ih =>
      rw [List.append_assoc]
      exact .letter hmark hne hpiece ih

theorem reverse (h : Lowered cs ds) : Lowered cs.reverse ds.reverse := by
  induction h with
  | nil => exact .nil
  | mark hmark _ ih =>
      rw [List.reverse_cons, List.reverse_cons]
      exact ih.append (.mark hmark .nil)
  | @letter c cs piece ds hmark hne hpiece _ ih =>
      rw [List.reverse_cons, List.reverse_append]
      have hpieces : Lowered [c] (piece.reverse ++ []) :=
        .letter hmark (by simpa using hne) (by simpa using hpiece) .nil
      rw [List.append_nil] at hpieces
      exact ih.append hpieces

theorem countP_eq (h : Lowered cs ds) :
    cs.countP isMark = ds.countP isMark := by
  induction h with
  | nil => rfl
  | mark hmark _ ih =>
      rw [List.countP_cons_of_pos hmark, List.countP_cons_of_pos hmark, ih]
  | @letter c cs piece ds hmark hne hpiece _ ih =>
      have hnone : piece.countP isMark = 0 :=
        List.countP_eq_zero.mpr fun d hd => by simp [hpiece d hd]
      rw [List.countP_cons_of_neg (by simp [hmark]), List.countP_append, hnone,
        Nat.zero_add, ih]

theorem dropWhile (hmarks : ∀ c, p c = true → isMark c = true)
    (h : Lowered cs ds) :
    Lowered (cs.dropWhile p) (ds.dropWhile p) := by
  have hno : ∀ c, isMark c = false → p c = false := by
    intro c hc
    by_contra hp
    rw [hmarks c (by simpa using hp)] at hc
    cases hc
  induction h with
  | nil => exact .nil
  | @mark c cs ds hmark h ih =>
      cases hp : p c with
      | true =>
          rw [List.dropWhile_cons_of_pos hp, List.dropWhile_cons_of_pos hp]
          exact ih
      | false =>
          rw [List.dropWhile_cons_of_neg (by simp [hp]),
            List.dropWhile_cons_of_neg (by simp [hp])]
          exact .mark hmark h
  | @letter c cs piece ds hmark hne hpiece h ih =>
      obtain ⟨d, piece, rfl⟩ := List.exists_cons_of_ne_nil hne
      have hhead := hno d (hpiece d List.mem_cons_self)
      rw [List.cons_append, List.dropWhile_cons_of_neg (by simp [hno c hmark]),
        List.dropWhile_cons_of_neg (by simp [hhead]), ← List.cons_append]
      exact .letter hmark hne hpiece h

theorem trimList (hmarks : ∀ c, p c = true → isMark c = true)
    (h : Lowered cs ds) :
    Lowered (trimList p cs) (trimList p ds) :=
  ((h.dropWhile hmarks).reverse.dropWhile hmarks).reverse

theorem cons_mark_inv {c : Char} (hmark : isMark c = true)
    (h : Lowered (c :: cs) ds) :
    ∃ rest, ds = c :: rest ∧ Lowered cs rest := by
  cases h with
  | mark _ h => exact ⟨_, rfl, h⟩
  | letter hno => simp [hmark] at hno

theorem mark_cons_inv {c : Char} (hmark : isMark c = true)
    (h : Lowered cs (c :: ds)) :
    ∃ rest, cs = c :: rest ∧ Lowered rest ds := by
  generalize hds : c :: ds = text at h
  cases h with
  | nil => cases hds
  | mark _ h =>
      obtain ⟨rfl, rfl⟩ := List.cons.inj hds
      exact ⟨_, rfl, h⟩
  | letter _ hne hpiece h =>
      obtain ⟨d, piece, rfl⟩ := List.exists_cons_of_ne_nil hne
      have hhead := hpiece d List.mem_cons_self
      rw [← (List.cons.inj hds).1, hmark] at hhead
      cases hhead

theorem pair {a b : Char} (ha : isMark a = true) (hb : isMark b = true)
    (h : Lowered cs ds) (hpair : [a, b] <+: ds) : [a, b] <+: cs := by
  obtain ⟨rest, rfl⟩ := hpair
  obtain ⟨front, rfl, hfront⟩ := h.mark_cons_inv ha
  obtain ⟨back, rfl, -⟩ := hfront.mark_cons_inv hb
  exact ⟨back, rfl⟩

theorem dropPairs {a b : Char} (ha : isMark a = true) (hb : isMark b = true)
    (h : Lowered cs ds) : Lowered (dropPairs a b cs) (dropPairs a b ds) := by
  fun_induction Foundation.dropPairs a b cs generalizing ds with
  | case1 x y cs hpair ih =>
      obtain ⟨rfl, rfl⟩ := hpair
      obtain ⟨front, rfl, hfront⟩ := h.cons_mark_inv ha
      obtain ⟨back, rfl, hback⟩ := hfront.cons_mark_inv hb
      rw [dropPairs_pair]
      exact ih hback
  | case2 x y cs hpair =>
      rw [dropPairs_eq_self fun hds =>
        hpair (pair_prefix_iff.mp (h.pair ha hb hds))]
      exact h
  | case3 cs hshort =>
      have hother : ¬ [a, b] <+: ds := by
        intro hds
        obtain ⟨rest, rfl⟩ := h.pair ha hb hds
        exact hshort a b rest rfl
      rw [dropPairs_eq_self hother]
      exact h

theorem trimDomain (h : Lowered cs ds) :
    Lowered (trimDomain cs) (trimDomain ds) := by
  have hblanks := h.trimList fun c => isMark_of_isWhitespace
  have hquotes := hblanks.trimList fun c hc =>
    isMark_of_eq '"' rfl (of_decide_eq_true hc)
  have happostrophes :=
    hquotes.trimList fun c hc => isMark_of_eq '\'' rfl (of_decide_eq_true hc)
  have hstars := happostrophes.dropPairs (a := '*') (b := '.') rfl rfl
  exact hstars.trimList fun c hc => isMark_of_eq '.' rfl (of_decide_eq_true hc)

end Lowered

theorem around_trimDomain (cs : List Char) :
    Around isMark (trimDomain cs) cs := by
  have hblanks := (around_trimList isWhitespace cs).mono fun c =>
    isMark_of_isWhitespace
  have hmark : ∀ mark cs, isMark mark = true →
      Around isMark (trimList (· = mark) cs) cs :=
    fun mark cs hmark => (around_trimList _ cs).mono fun c hc =>
      isMark_of_eq mark hmark (of_decide_eq_true hc)
  have hstars : ∀ cs, Around isMark (dropPairs '*' '.' cs) cs := by
    intro cs
    obtain ⟨n, hn⟩ := exists_dropPairs '*' '.' cs
    refine ⟨(List.replicate n ['*', '.']).flatten,
      [], by rw [List.append_nil]; exact hn, ?_, by simp⟩
    intro c hc
    rcases mem_pairs hc with rfl | rfl <;> rfl
  exact (hmark '.' _ rfl).trans ((hstars _).trans ((hmark '\'' _ rfl).trans
    ((hmark '"' _ rfl).trans hblanks)))

theorem trimDomain_eq_self
    (h : cs.countP isMark = (trimDomain cs).countP isMark) :
    trimDomain cs = cs := by
  obtain ⟨front, back, hcs, hfront, hback⟩ := around_trimDomain cs
  have hcount := congrArg (List.countP isMark) hcs
  rw [List.countP_append, List.countP_append, List.countP_eq_length.mpr hfront,
    List.countP_eq_length.mpr hback, h] at hcount
  have hfrontNil : front = [] := List.eq_nil_of_length_eq_zero (by omega)
  have hbackNil : back = [] := List.eq_nil_of_length_eq_zero (by omega)
  rw [hfrontNil, hbackNil, List.nil_append, List.append_nil] at hcs
  exact hcs.symm

/-- `str::to_lowercase`: marks have no case, and no letter becomes a mark. -/
structure TextCrates.LowersLetters (crates : TextCrates) : Prop where
  lowered : ∀ s, Lowered s.toList (crates.toLowercase s).toList
  idem : ∀ s, crates.toLowercase (crates.toLowercase s) = crates.toLowercase s

/-! ## Normalising twice -/

theorem normalizeDomain_idem_iff {crates : TextCrates}
    (hlower : crates.LowersLetters) (s : String) :
    normalizeDomain crates (normalizeDomain crates s) =
      normalizeDomain crates s ↔
      InOrder s.toList := by
  rw [← trimDomain_idem_iff, normalizeDomain_eq crates s, normalizeDomain_eq]
  generalize hname : crates.toLowercase (String.ofList (trimDomain s.toList)) =
    name
  have hfirst : Lowered (trimDomain s.toList) name.toList := by
    have hlowered := hlower.lowered (String.ofList (trimDomain s.toList))
    rwa [String.toList_ofList, hname] at hlowered
  have hsecond := hfirst.trimDomain
  constructor
  · intro htwice
    -- no mark was lost between the two results, so the pass took nothing off the first
    have hlast := hlower.lowered (String.ofList (trimDomain name.toList))
    rw [String.toList_ofList, htwice] at hlast
    apply trimDomain_eq_self
    rw [hsecond.countP_eq, hlast.countP_eq, hfirst.countP_eq]
  · intro honce
    have hname' : trimDomain name.toList = name.toList := by
      apply trimDomain_eq_self
      rw [← hsecond.countP_eq, honce, hfirst.countP_eq]
    rw [hname', String.ofList_toList, ← hname, hlower.idem]

theorem lowered_ascii (cs : List Char) : Lowered cs (cs.map Char.toLower) := by
  induction cs with
  | nil => exact .nil
  | cons c cs ih =>
      rw [List.map_cons]
      cases hmark : isMark c with
      | true =>
          rw [toLower_of_isMark hmark]
          exact .mark hmark ih
      | false =>
          refine .letter hmark (List.cons_ne_nil c.toLower []) ?_ ih
          intro d hd
          rw [List.mem_singleton.mp hd, isMark_toLower, hmark]

theorem asciiCrates_lowersLetters : asciiCrates.LowersLetters where
  lowered := by
    intro s
    show Lowered s.toList (String.ofList (s.toList.map Char.toLower)).toList
    rw [String.toList_ofList]
    exact lowered_ascii s.toList
  idem := toAsciiLowercase_idem

theorem normalizeDomain_idem_corp :
    normalizeDomain asciiCrates
      (normalizeDomain asciiCrates " \"*.Corp.example.\"") =
      normalizeDomain asciiCrates " \"*.Corp.example.\"" :=
  (normalizeDomain_idem_iff asciiCrates_lowersLetters _).mpr
    (trimDomain_idem_iff.mp (by decide +kernel))

theorem normalizeDomain_dotted_star :
    normalizeDomain asciiCrates ".*.corp" = "*.corp" ∧
      normalizeDomain asciiCrates (normalizeDomain asciiCrates ".*.corp") ≠
        normalizeDomain asciiCrates ".*.corp" := by
  decide +kernel

end Rustylink.Dns
