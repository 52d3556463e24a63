import Mathlib.Algebra.Group.Nat.Defs
import Mathlib.Data.List.TakeWhile
import Rustylink.Foundation.NetText
import Rustylink.Foundation.Text

/-!
# The authority of a URL

How the URL standard reads the text after `scheme://`: where the authority
ends, which part of it is the host and which the port, and what makes a host
valid.  `special` says whether the scheme is one of the web's.
-/

namespace Rustylink.Foundation

def isTabOrNewline (c : Char) : Bool := c = '\t' || c = '\n' || c = '\r'

def isSlash (c : Char) : Bool := c = '/' || c = '\\'

/-- A backslash is a slash where the scheme is special. -/
def endsAuthority (special : Bool) (c : Char) : Bool :=
  c = '/' || c = '?' || c = '#' || (special && c = '\\')

structure Authority where
  host : List Char
  port : Option Nat
  rest : List Char
  deriving DecidableEq, Repr

def afterLast (c : Char) (cs : List Char) : List Char :=
  (cs.reverse.takeWhile (· ≠ c)).reverse

def splitPort (inBrackets : Bool) : List Char → List Char × Option (List Char)
  | [] => ([], none)
  | c :: cs =>
      if c = ':' ∧ inBrackets = false then ([], some cs)
      else
        let inBrackets :=
          if c = '[' then true else if c = ']' then false else inBrackets
        let (host, port) := splitPort inBrackets cs
        (c :: host, port)

def readAll (radix : Nat) (cs : List Char) : Option Nat :=
  match readDigits radix cs with
  | (digits, []) => some (ofDigits radix digits)
  | _ => none

def readPortText : Option (List Char) → Option (Option Nat)
  | none | some [] => some none
  | some cs => ((readAll 10 cs).filter (· < 65536)).map some

def readAuthority (special : Bool) (cs : List Char) : Option Authority := do
  -- line breaks and tabs are removed wherever they stand, and so are further slashes in front
  let cs := cs.filter fun c => !isTabOrNewline c
  let cs := if special then cs.dropWhile isSlash else cs
  let authority := cs.takeWhile fun c => !endsAuthority special c
  -- what stands before the last at-sign are credentials
  let hostPort := afterLast '@' authority
  if '@' ∈ authority ∧ hostPort = [] then none
  else
    let (host, port) := splitPort false hostPort
    if host = [] ∧ (special = true ∨ port.isSome = true) then none
    else do
      let port ← readPortText port
      return ⟨host, port, cs.dropWhile fun c => !endsAuthority special c⟩

/-! ## Hosts -/

def forbiddenHostChars : List Char :=
  ['\x00', '\t', '\n', '\r', ' ', '#', '/', ':', '<', '>', '?', '@', '[', '\\',
    ']', '^', '|']

def isEncoded (c : Char) : Bool := c.toNat < 0x20 || 0x7F ≤ c.toNat

def forbiddenDomainChar (c : Char) : Bool :=
  forbiddenHostChars.contains c || c.toNat < 0x20 || c = '%' || c.toNat = 0x7F

def hexUpper (n : Nat) : List Char :=
  ((Nat.toDigits 16 n).map Char.toUpper).leftpad 2 '0'

def percentEncode (c : Char) : List Char :=
  if isEncoded c then (String.utf8EncodeChar c).flatMap fun byte =>
    '%' :: hexUpper byte.toNat
  else [c]

def opaqueHost (cs : List Char) : Option String :=
  if cs.any forbiddenHostChars.contains then none
  else some (String.ofList (cs.flatMap percentEncode))

def ipv4Number : List Char → Option Nat
  | [] => none
  | '0' :: 'x' :: cs | '0' :: 'X' :: cs => readAll 16 cs
  | '0' :: c :: cs => readAll 8 (c :: cs)
  | cs => readAll 10 cs

def ipv4Parts (cs : List Char) : List (List Char) :=
  let parts := splitChars (· = '.') cs
  -- one dot at the end is left out
  if 1 < parts.length ∧ parts.getLast? = some [] then parts.dropLast else parts

def endsInNumber (cs : List Char) : Bool :=
  match (ipv4Parts cs).getLast? with
  | none => false
  | some last => (last ≠ [] && last.all Char.isDigit) ||
        (ipv4Number last).isSome

/-- Each number is one byte, and the last one fills the bytes that are left. -/
def ipv4OfNumbers (numbers : List Nat) : Option (BitVec 32) :=
  let last := numbers.getLastD 0
  let first := numbers.dropLast
  if 4 < numbers.length ∨ first.any (255 < ·) ∨
    256 ^ (5 - numbers.length) ≤ last then none
  else
    some (.ofNat 32 (first.zipIdx.foldl (fun value (n, i) =>
      value + n * 256 ^ (3 - i)) last))

/-- The spellings of an IPv4 address, `0x7f.1` as well as `127.0.0.1`. -/
def ipv4OfText (cs : List Char) : Option (BitVec 32) :=
  ((ipv4Parts cs).mapM ipv4Number).bind ipv4OfNumbers

/-! ## What the readers go over -/

def GoesOver (p : Char → Bool) (cs rest : List Char) : Prop :=
  ∃ read, cs = read ++ rest ∧ ∀ c ∈ read, p c = true

variable {p : Char → Bool} {cs rest : List Char}

theorem GoesOver.refl : GoesOver p cs cs := ⟨[], rfl, by simp⟩

theorem GoesOver.trans {middle : List Char} (h : GoesOver p cs middle)
    (h' : GoesOver p middle rest) : GoesOver p cs rest := by
  obtain ⟨read, rfl, hread⟩ := h
  obtain ⟨read', rfl, hread'⟩ := h'
  refine ⟨read ++ read', by simp, fun c hc => ?_⟩
  rcases List.mem_append.mp hc with hc | hc
  · exact hread c hc
  · exact hread' c hc

theorem GoesOver.all (h : GoesOver p cs []) : ∀ c ∈ cs, p c = true := by
  obtain ⟨read, rfl, hread⟩ := h
  simpa using hread

theorem readChar_goesOver {c : Char} (hp : p c = true)
    (h : readChar c cs = some rest) :
    GoesOver p cs rest := by
  cases cs with
  | nil => simp [readChar] at h
  | cons d cs =>
      simp only [readChar] at h
      split at h
      · rename_i hsame
        cases h
        exact ⟨[d], rfl, by simp [hsame, hp]⟩
      · cases h

def isHexDigit (c : Char) : Bool := (digitValue 16 c).isSome

theorem isHexDigit_of_digitValue {radix digit : Nat} {c : Char}
    (hradix : radix ≤ 16) (h : digitValue radix c = some digit) :
    isHexDigit c = true := by
  simp only [digitValue, Option.filter_eq_some_iff, decide_eq_true_eq] at h
  simp only [isHexDigit, digitValue, h.1]
  simp [Nat.lt_of_lt_of_le h.2 hradix]

theorem readDigits_goesOver {radix : Nat} (hradix : radix ≤ 16)
    (hp : ∀ c, isHexDigit c → p c) (cs : List Char) :
    GoesOver p cs (readDigits radix cs).2 := by
  induction cs with
  | nil => exact .refl
  | cons c cs ih =>
      unfold readDigits
      cases hdigit : digitValue radix c with
      | none => exact .refl
      | some digit =>
          have hc : p c = true := hp c (isHexDigit_of_digitValue hradix hdigit)
          exact GoesOver.trans ⟨[c], rfl, by simpa using hc⟩ ih

theorem readNumber_goesOver {radix bound n : Nat} {maxDigits : Option Nat}
    {zeros : Bool} (hradix : radix ≤ 16) (hp : ∀ c, isHexDigit c → p c)
    (h : readNumber radix bound maxDigits zeros cs = some (n, rest)) :
    GoesOver p cs rest := by
  have hdigits := readDigits_goesOver hradix hp cs
  simp only [readNumber] at h
  split at h
  · cases h
  · cases h
    exact hdigits

theorem readSeparated_goesOver {α : Type} {separator : Char} {index : Nat}
    {read : List Char → Option (α × List Char)} {a : α}
    (hp : p separator = true)
    (hread : ∀ cs a rest, read cs = some (a, rest) → GoesOver p cs rest)
    (h : readSeparated separator index read cs = some (a, rest)) :
    GoesOver p cs rest := by
  unfold readSeparated at h
  split at h
  · exact hread cs a rest h
  · obtain ⟨middle, hchar, hmiddle⟩ := Option.bind_eq_some_iff.mp h
    exact (readChar_goesOver hp hchar).trans (hread middle a rest hmiddle)

def isIpv6Char (c : Char) : Bool := isHexDigit c || c = '.' || c = ':'

theorem isIpv6Char_of_hexDigit (c : Char) (h : isHexDigit c = true) :
    isIpv6Char c = true := by
  simp [isIpv6Char, h]

theorem readIpv4Addr_goesOver {address : BitVec 32}
    (h : readIpv4Addr cs = some (address, rest)) :
    GoesOver isIpv6Char cs rest := by
  have hoctet {index n : Nat} {cs rest : List Char}
      (h : readOctet index cs = some (n, rest)) :
      GoesOver isIpv6Char cs rest :=
    readSeparated_goesOver (by decide)
      (fun cs n rest => readNumber_goesOver (by omega) isIpv6Char_of_hexDigit) h
  simp only [readIpv4Addr, Option.bind_eq_bind, Option.bind_eq_some_iff,
    Prod.exists] at h
  obtain ⟨a, csA, ha, b, csB, hb, c, csC, hc, d, csD, hd, hresult⟩ := h
  cases hresult
  exact (hoctet ha).trans ((hoctet hb).trans ((hoctet hc).trans (hoctet hd)))

theorem readGroups_goesOver (limit index : Nat) (cs : List Char) :
    GoesOver isIpv6Char cs (readGroups limit index cs).2.2 := by
  induction limit generalizing index cs with
  | zero => exact .refl
  | succ left ih =>
      unfold readGroups
      dsimp only
      split
      · rename_i address rest hembedded
        have hv4 : readSeparated ':' index readIpv4Addr cs =
            some (address, rest) := by
          split at hembedded
          · cases hembedded
          · exact hembedded
        exact readSeparated_goesOver (by decide)
          (fun _ _ _ => readIpv4Addr_goesOver) hv4
      · split
        · exact .refl
        · rename_i group rest hgroup
          have hread := readSeparated_goesOver (p := isIpv6Char) (by decide)
            (fun cs n rest => readNumber_goesOver (by omega)
              isIpv6Char_of_hexDigit) hgroup
          exact hread.trans (ih (index + 1) rest)

theorem readIpv6Addr_goesOver {address : BitVec 128}
    (h : readIpv6Addr cs = some (address, rest)) :
    GoesOver isIpv6Char cs rest := by
  have hhead := readGroups_goesOver 8 0 cs
  simp only [readIpv6Addr] at h
  split at h
  · cases h
    exact hhead
  · split at h
    · cases h
    · simp only [Option.bind_eq_bind, Option.bind_eq_some_iff] at h
      obtain ⟨first, hfirst, second, hsecond, hresult⟩ := h
      cases hresult
      exact hhead.trans ((readChar_goesOver (by decide) hfirst).trans
        ((readChar_goesOver (by decide) hsecond).trans
          (readGroups_goesOver _ 0 second)))

theorem Ipv6Addr.parse_chars {text : String} {address : BitVec 128}
    (h : Ipv6Addr.parse text = some address) :
    ∀ c ∈ text.toList, isIpv6Char c = true := by
  simp only [Ipv6Addr.parse, parseWith] at h
  split at h
  · rename_i hread
    exact (readIpv6Addr_goesOver hread).all
  · cases h

theorem readAll_chars {radix n : Nat} (hradix : radix ≤ 16)
    (h : readAll radix cs = some n) :
    ∀ c ∈ cs, isHexDigit c = true := by
  have hdigits :=
    readDigits_goesOver (p := isHexDigit) hradix (fun c hc => hc) cs
  unfold readAll at h
  split at h
  · rename_i digits hread
    rw [hread] at hdigits
    exact hdigits.all
  · cases h

def isIpv4Char (c : Char) : Bool :=
  isHexDigit c || c = '.' || c = 'x' || c = 'X'

theorem ipv4Number_chars {n : Nat} (h : ipv4Number cs = some n) :
    ∀ c ∈ cs, isIpv4Char c = true := by
  have hhex {radix : Nat} {ds : List Char} (hradix : radix ≤ 16)
      (hread : readAll radix ds = some n) : ∀ c ∈ ds, isIpv4Char c = true :=
        fun c hc => by
    simp [isIpv4Char, readAll_chars hradix hread c hc]
  have hzero : isIpv4Char '0' = true := by decide
  have hsmall : isIpv4Char 'x' = true := by decide
  have hcapital : isIpv4Char 'X' = true := by decide
  unfold ipv4Number at h
  split at h
  · cases h
  · rename_i ds
    simpa [hzero, hsmall] using hhex (by omega) h
  · rename_i ds
    simpa [hzero, hcapital] using hhex (by omega) h
  · simpa [hzero] using hhex (by omega) h
  · exact hhex (by omega) h

theorem mem_splitChars {c : Char} (h : c ∈ cs) :
    p c = true ∨ ∃ piece ∈ splitChars p cs, c ∈ piece := by
  induction cs with
  | nil => cases h
  | cons d cs ih =>
      unfold splitChars
      by_cases hd : p d = true
      · rw [if_pos hd]
        rcases List.mem_cons.mp h with rfl | hc
        · exact .inl hd
        · rcases ih hc with hsep | ⟨piece, hpiece, hmem⟩
          · exact .inl hsep
          · exact .inr ⟨piece, List.mem_cons_of_mem _ hpiece, hmem⟩
      · rw [if_neg hd]
        cases hsplit : splitChars p cs with
        | nil =>
            rcases List.mem_cons.mp h with rfl | hc
            · exact .inr ⟨[c], by simp⟩
            · rcases ih hc with hsep | ⟨piece, hpiece, hmem⟩
              · exact .inl hsep
              · rw [hsplit] at hpiece
                cases hpiece
        | cons piece pieces =>
            rcases List.mem_cons.mp h with rfl | hc
            · exact .inr ⟨c :: piece, by simp⟩
            · rcases ih hc with hsep | ⟨other, hother, hmem⟩
              · exact .inl hsep
              · rw [hsplit] at hother
                rcases List.mem_cons.mp hother with rfl | hother
                · exact .inr ⟨d :: other, by simp, List.mem_cons_of_mem d hmem⟩
                · exact .inr ⟨other, List.mem_cons_of_mem _ hother, hmem⟩

theorem mem_ipv4Parts {c : Char} (h : c ∈ cs) :
    c = '.' ∨ ∃ part ∈ ipv4Parts cs, c ∈ part := by
  rcases mem_splitChars (p := fun c => c = '.') h with
    hdot | ⟨piece, hpiece, hmem⟩
  · exact .inl (by simpa using hdot)
  · refine .inr ⟨piece, ?_, hmem⟩
    unfold ipv4Parts
    dsimp only
    split
    · rename_i hlast
      rw [← List.dropLast_append_getLast? [] hlast.2] at hpiece
      rcases List.mem_append.mp hpiece with hfirst | hend
      · exact hfirst
      · rw [List.mem_singleton.mp hend] at hmem
        cases hmem
    · exact hpiece

theorem exists_of_mapM {α β : Type} {f : α → Option β}
    {as : List α} {bs : List β} (h : as.mapM f = some bs) :
    ∀ a ∈ as, ∃ b, f a = some b := by
  induction as generalizing bs with
  | nil => simp
  | cons a as ih =>
      simp only [List.mapM_cons, Option.bind_eq_bind,
        Option.bind_eq_some_iff] at h
      obtain ⟨b, hb, bs', hbs, -⟩ := h
      intro a' ha'
      rcases List.mem_cons.mp ha' with rfl | hmem
      · exact ⟨b, hb⟩
      · exact ih hbs a' hmem

theorem ipv4OfText_chars {address : BitVec 32}
    (h : ipv4OfText cs = some address) :
    ∀ c ∈ cs, isIpv4Char c = true := by
  intro c hc
  obtain ⟨numbers, hnumbers, -⟩ := Option.bind_eq_some_iff.mp h
  rcases mem_ipv4Parts hc with rfl | ⟨part, hpart, hmem⟩
  · decide
  · obtain ⟨n, hn⟩ := exists_of_mapM hnumbers part hpart
    exact ipv4Number_chars hn c hmem

/-! ## Host characters -/

def isInner (c : Char) : Bool :=
  !isTabOrNewline c && !endsAuthority true c && c ≠ '@'

def isHostChar (special : Bool) (c : Char) : Bool :=
  !isEncoded c && !forbiddenHostChars.contains c && !(special && c = '%')

theorem isHostChar_iff {special : Bool} {c : Char} :
    isHostChar special c = true ↔
      isEncoded c = false ∧ c ∉ forbiddenHostChars ∧
        (special = true → c ≠ '%') := by
  cases special <;> simp [isHostChar, and_assoc]

theorem isHostChar_of_special {special : Bool} {c : Char}
    (h : isHostChar true c = true) :
    isHostChar special c = true := by
  obtain ⟨hencoded, hforbidden, hescape⟩ := isHostChar_iff.mp h
  exact isHostChar_iff.mpr ⟨hencoded, hforbidden, fun _ => hescape rfl⟩

theorem isHostChar_alphanumeric {special : Bool} {c : Char}
    (h : (48 ≤ c.toNat ∧ c.toNat ≤ 57) ∨ (65 ≤ c.toNat ∧ c.toNat ≤ 90) ∨
      (97 ≤ c.toNat ∧ c.toNat ≤ 122)) : isHostChar special c = true := by
  have hall : ('%' :: forbiddenHostChars).all (fun d => d.toNat < 48 ||
      (57 < d.toNat && d.toNat < 65) || (90 < d.toNat && d.toNat < 97) ||
          122 < d.toNat) = true := by
    decide
  have hother : c ∉ '%' :: forbiddenHostChars := fun hmem => by
    have hrange := List.all_eq_true.mp hall c hmem
    simp only [Bool.or_eq_true, Bool.and_eq_true, decide_eq_true_eq] at hrange
    omega
  refine isHostChar_iff.mpr
    ⟨?_, fun hmem => hother (List.mem_cons_of_mem _ hmem),
    fun _ hescape => hother (hescape ▸ List.mem_cons_self)⟩
  simp [isEncoded]
  omega

theorem isHostChar_toLower (special : Bool) (c : Char) :
    isHostChar special c.toLower = isHostChar special c := by
  by_cases hcapital : 65 ≤ c.toNat ∧ c.toNat ≤ 90
  · have hlower : c.toLower.toNat = c.toNat + 32 := by
      rw [toNat_toLower, if_pos hcapital]
    rw [isHostChar_alphanumeric (.inr (.inl hcapital)),
      isHostChar_alphanumeric (.inr (.inr (by omega)))]
  · have hsame : c.toLower = c := by
      rw [← Char.toNat_inj, toNat_toLower, if_neg hcapital]
    rw [hsame]

theorem isHostChar_isInner {special : Bool} {c : Char}
    (h : isHostChar special c = true) :
    isInner c = true ∧ c ≠ ':' ∧ c ≠ '[' ∧ c ≠ ']' := by
  obtain ⟨-, hforbidden, -⟩ := isHostChar_iff.mp h
  have hne (d : Char) (hd : d ∈ forbiddenHostChars) : c ≠ d := fun hsame =>
    hforbidden (hsame ▸ hd)
  refine ⟨?_, hne ':' (by decide), hne '[' (by decide), hne ']' (by decide)⟩
  simp [isInner, isTabOrNewline, endsAuthority, hne '\t' (by decide),
    hne '\n' (by decide), hne '\r' (by decide), hne '/' (by decide),
    hne '?' (by decide), hne '#' (by decide),
    hne '\\' (by decide), hne '@' (by decide)]

theorem isHexDigit_toNat {c : Char} (h : isHexDigit c = true) :
    (48 ≤ c.toNat ∧ c.toNat ≤ 57) ∨ (65 ≤ c.toNat ∧ c.toNat ≤ 90) ∨
      (97 ≤ c.toNat ∧ c.toNat ≤ 122) := by
  unfold isHexDigit digitValue at h
  dsimp only at h
  split at h
  · omega
  · split at h
    · omega
    · split at h
      · omega
      · cases h

theorem isHostChar_ipv4 {special : Bool} {c : Char} (h : isIpv4Char c = true) :
    isHostChar special c = true := by
  simp only [isIpv4Char, Bool.or_eq_true, decide_eq_true_eq] at h
  rcases h with ((hhex | rfl) | rfl) | rfl
  · exact isHostChar_alphanumeric (isHexDigit_toNat hhex)
  · exact isHostChar_of_special (by decide)
  · exact isHostChar_of_special (by decide)
  · exact isHostChar_of_special (by decide)

theorem isIpv6Char_isInner {c : Char} (h : isIpv6Char c = true) :
    isInner c = true ∧ c ≠ '[' ∧ c ≠ ']' := by
  simp only [isIpv6Char, Bool.or_eq_true, decide_eq_true_eq] at h
  rcases h with (hhex | rfl) | rfl
  · have hchar : isHostChar true c = true :=
      isHostChar_alphanumeric (isHexDigit_toNat hhex)
    have hinner := isHostChar_isInner hchar
    exact ⟨hinner.1, hinner.2.2⟩
  · decide
  · decide

theorem isHostChar_domain {c : Char} (hascii : c.toNat < 128)
    (h : forbiddenDomainChar c = false) :
    isHostChar true c = true := by
  simp only [forbiddenDomainChar, Bool.or_eq_false_iff, List.contains_eq_mem,
    decide_eq_false_iff_not] at h
  obtain ⟨⟨⟨hforbidden, hcontrol⟩, hescape⟩, hdelete⟩ := h
  refine isHostChar_iff.mpr ⟨?_, hforbidden, fun _ => hescape⟩
  simp [isEncoded]
  omega

theorem isHostChar_hexUpper {c : Char} (byte : UInt8)
    (h : c ∈ hexUpper byte.toNat) :
    isHostChar false c = true := by
  have hall : (List.range 256).all (fun n =>
      (hexUpper n).all (isHostChar false)) = true := by
    decide +kernel
  have hbyte :=
    List.all_eq_true.mp hall byte.toNat (List.mem_range.mpr byte.toNat_lt)
  exact List.all_eq_true.mp hbyte c h

theorem isHostChar_percentEncode {c d : Char}
    (hforbidden : c ∉ forbiddenHostChars) (h : d ∈ percentEncode c) :
    isHostChar false d = true := by
  unfold percentEncode at h
  split at h
  · obtain ⟨byte, -, hd⟩ := List.mem_flatMap.mp h
    rcases List.mem_cons.mp hd with rfl | hhex
    · decide
    · exact isHostChar_hexUpper byte hhex
  · rename_i hencoded
    rw [List.mem_singleton.mp h]
    exact isHostChar_iff.mpr
      ⟨by simpa using hencoded, hforbidden, fun hspecial => by cases hspecial⟩

theorem opaqueHost_chars {text : String} (h : opaqueHost cs = some text) :
    ∀ c ∈ text.toList, isHostChar false c = true := by
  unfold opaqueHost at h
  split at h
  · cases h
  · rename_i hforbidden
    cases h
    intro d hd
    rw [String.toList_ofList] at hd
    obtain ⟨c, hc, hcd⟩ := List.mem_flatMap.mp hd
    refine isHostChar_percentEncode (fun hmem => hforbidden ?_) hcd
    exact List.any_eq_true.mpr ⟨c, hc, by simpa using hmem⟩

theorem percentEncode_plain (h : ∀ c ∈ cs, isHostChar false c = true) :
    cs.flatMap percentEncode = cs := by
  induction cs with
  | nil => rfl
  | cons c cs ih =>
      have hc := (isHostChar_iff.mp (h c List.mem_cons_self)).1
      have hrest := ih fun d hd => h d (List.mem_cons_of_mem _ hd)
      simp [percentEncode, hc, hrest]

theorem opaqueHost_plain (h : ∀ c ∈ cs, isHostChar false c = true) :
    opaqueHost cs = some (String.ofList cs) := by
  have hallowed : cs.any forbiddenHostChars.contains = false := by
    rw [List.any_eq_false]
    intro c hc
    simpa using (isHostChar_iff.mp (h c hc)).2.1
  simp [opaqueHost, hallowed, percentEncode_plain h]

/-! ## Plain authorities -/

theorem isDigit_range {c : Char} (h : c.isDigit = true) :
    48 ≤ c.toNat ∧ c.toNat ≤ 57 := by
  simp only [Char.isDigit, Bool.and_eq_true, decide_eq_true_eq, ge_iff_le,
    UInt32.le_iff_toNat_le] at h
  exact h

theorem digitValue_digit {c : Char} (h : c.isDigit = true) :
    digitValue 10 c = some (c.toNat - 48) := by
  obtain ⟨hlow, hhigh⟩ := isDigit_range h
  simp [digitValue, hlow, hhigh]
  omega

theorem readDigits_digits (h : ∀ c ∈ cs, c.isDigit = true) :
    readDigits 10 cs = (cs.map fun c => c.toNat - 48, []) := by
  induction cs with
  | nil => rfl
  | cons c cs ih =>
      have hrest := ih fun d hd => h d (List.mem_cons_of_mem _ hd)
      simp [readDigits, digitValue_digit (h c List.mem_cons_self), hrest]

theorem readAll_toDigits (n : Nat) :
    readAll 10 (Nat.toDigits 10 n) = some n := by
  have hdigits : ∀ c ∈ Nat.toDigits 10 n, c.isDigit = true := fun c hc =>
    Nat.isDigit_of_mem_toDigits (by omega) (by omega) hc
  have hvalue := Nat.ofDigitChars_ten_toDigits (n := n)
  rw [Nat.ofDigitChars_eq_foldl] at hvalue
  simp only [readAll, readDigits_digits hdigits, ofDigits, List.foldl_map]
  simpa [Nat.mul_comm] using hvalue

theorem readPortText_toDigits {port : Nat} (h : port < 65536) :
    readPortText (some (Nat.toDigits 10 port)) = some (some port) := by
  have hne := Nat.toDigits_ne_nil (n := port) (b := 10)
  cases hdigits : Nat.toDigits 10 port with
  | nil => exact absurd hdigits hne
  | cons c cs =>
      have hread := readAll_toDigits port
      rw [hdigits] at hread
      simp [readPortText, hread, h]

theorem afterLast_of_not_mem {c : Char} (h : c ∉ cs) : afterLast c cs = cs := by
  unfold afterLast
  rw [List.takeWhile_eq_self_iff.mpr ?_, List.reverse_reverse]
  intro d hd
  have hmem := List.mem_reverse.mp hd
  simp only [decide_eq_true_eq]
  rintro rfl
  exact h hmem

theorem splitPort_plain {port : List Char}
    (h : ∀ c ∈ cs, c ≠ ':' ∧ c ≠ '[' ∧ c ≠ ']') :
    splitPort false (cs ++ ':' :: port) = (cs, some port) := by
  induction cs with
  | nil => simp [splitPort]
  | cons c cs ih =>
      obtain ⟨hcolon, hopen, hclose⟩ := h c List.mem_cons_self
      have hrest := ih fun d hd => h d (List.mem_cons_of_mem _ hd)
      simp [splitPort, hcolon, hopen, hclose, hrest]

theorem splitPort_brackets {port : List Char}
    (h : ∀ c ∈ cs, c ≠ '[' ∧ c ≠ ']') :
    splitPort true (cs ++ ']' :: ':' :: port) = (cs ++ [']'], some port) := by
  induction cs with
  | nil => simp [splitPort]
  | cons c cs ih =>
      obtain ⟨hopen, hclose⟩ := h c List.mem_cons_self
      have hrest := ih fun d hd => h d (List.mem_cons_of_mem _ hd)
      simp [splitPort, hopen, hclose, hrest]

theorem isInner_digit {c : Char} (h : c.isDigit = true) : isInner c = true := by
  have hchar : isHostChar true c = true :=
    isHostChar_alphanumeric (.inl (isDigit_range h))
  exact (isHostChar_isInner hchar).1

theorem isInner_spec {c : Char} (h : isInner c = true) (special : Bool) :
    isTabOrNewline c = false ∧ isSlash c = false ∧
      endsAuthority special c = false ∧ c ≠ '@' := by
  simp only [isInner, endsAuthority, isSlash, Bool.and_eq_true,
    Bool.not_eq_true', Bool.or_eq_false_iff, Bool.true_and,
    decide_eq_true_eq] at h ⊢
  obtain ⟨⟨htab, ⟨⟨hslash, hquery⟩, hfragment⟩, hback⟩, hat⟩ := h
  exact ⟨htab, ⟨hslash, hback⟩,
    ⟨⟨⟨hslash, hquery⟩, hfragment⟩, by simp [hback]⟩, hat⟩

theorem readAuthority_plain (special : Bool) {port : Nat} (hne : cs ≠ [])
    (hinner : ∀ c ∈ cs, isInner c = true) (hport : port < 65536)
    (hsplit : splitPort false (cs ++ ':' :: Nat.toDigits 10 port) =
      (cs, some (Nat.toDigits 10 port))) :
    readAuthority special (cs ++ ':' :: Nat.toDigits 10 port ++ ['/']) =
      some ⟨cs, some port, ['/']⟩ := by
  have hbody : ∀ c ∈ cs ++ ':' :: Nat.toDigits 10 port, isInner c = true := by
    intro c hc
    rcases List.mem_append.mp hc with hc | hc
    · exact hinner c hc
    · rcases List.mem_cons.mp hc with rfl | hc
      · decide
      · exact isInner_digit (Nat.isDigit_of_mem_toDigits (by omega)
          (by omega) hc)
  have hnonempty : cs ++ ':' :: Nat.toDigits 10 port ≠ [] := by simp
  generalize cs ++ ':' :: Nat.toDigits 10 port = body at *
  have hfilter : (body ++ ['/']).filter (fun c => !isTabOrNewline c) =
      body ++ ['/'] := by
    rw [List.filter_eq_self]
    intro c hc
    rcases List.mem_append.mp hc with hc | hc
    · simp [(isInner_spec (hbody c hc) special).1]
    · simp [List.mem_singleton.mp hc, isTabOrNewline]
  have hstart : (body ++ ['/']).dropWhile isSlash = body ++ ['/'] := by
    cases body with
    | nil => exact absurd rfl hnonempty
    | cons c body =>
        have hc := (isInner_spec (hbody c List.mem_cons_self) special).2.1
        simp [hc]
  have hends : ∀ c ∈ body, (!endsAuthority special c) = true := fun c hc => by
    simp [(isInner_spec (hbody c hc) special).2.2.1]
  have htake : (body ++ ['/']).takeWhile (fun c => !endsAuthority special c) =
      body := by
    rw [List.takeWhile_append_of_pos hends]
    simp [endsAuthority]
  have hdrop : (body ++ ['/']).dropWhile (fun c => !endsAuthority special c) =
      ['/'] := by
    rw [List.dropWhile_append_of_pos hends]
    simp [endsAuthority]
  have hat : '@' ∉ body :=
    fun hmem => (isInner_spec (hbody '@' hmem) special).2.2.2 rfl
  have hskip :
      (if special = true then (body ++ ['/']).dropWhile isSlash else body ++
        ['/']) =
      body ++ ['/'] := by
    rw [hstart, ite_self]
  simp only [readAuthority, hfilter, hskip, htake, hdrop, hat,
    afterLast_of_not_mem hat, hsplit]
  simp [hne, readPortText_toDigits hport]

end Rustylink.Foundation
