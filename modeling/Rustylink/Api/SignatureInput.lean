import Rustylink.Api.PlainCrates
import Rustylink.Foundation.Fallible

/-!
# What a signature covers

The signer reads a header as a text and skips one that it cannot read; the other
side reads its bytes.  They put together the same input exactly when every
header that the flags select was made of an ASCII text.
-/

namespace Rustylink.Api

open Rustylink.Foundation

/-! ## Parts that are left out -/

theorem flatten_eq_iff {α : Type} {xs ys : List (List α)}
    (h : List.Forall₂ (fun x y => x = y ∨ x = []) xs ys) :
    xs.flatten = ys.flatten ↔ xs = ys := by
  have hlength {xs ys : List (List α)}
      (h : List.Forall₂ (fun x y => x = y ∨ x = []) xs ys) :
      xs.flatten.length ≤ ys.flatten.length := by
    induction h with
    | nil => rfl
    | cons hpart hparts ih =>
        rw [List.flatten_cons, List.flatten_cons, List.length_append,
          List.length_append]
        rcases hpart with rfl | rfl
        · omega
        · simp only [List.length_nil]
          omega
  induction h with
  | nil => simp
  | @cons x y xs ys hpart hparts ih =>
      constructor
      · intro heq
        -- a part left out makes the text shorter, and no later part makes up for it
        have htotal := congrArg List.length heq
        have hrest := hlength hparts
        rw [List.flatten_cons, List.flatten_cons, List.length_append,
          List.length_append] at htotal
        have hsame : x = y := by
          rcases hpart with rfl | rfl
          · rfl
          · simp only [List.length_nil] at htotal
            exact (List.eq_nil_of_length_eq_zero (by omega)).symm
        subst hsame
        rw [List.flatten_cons, List.flatten_cons,
          List.append_cancel_left_eq] at heq
        rw [ih.mp heq]
      · intro heq
        rw [heq]

variable {Url Uri HeaderValue : Type}
  {crates : RequestCrates Url Uri HeaderValue}

/-! ## Headers that are made of texts -/

variable (crates) in
def Carries (headers : HeaderMap HeaderValue) (name : String)
    (text : Option String) : Prop :=
  Option.Rel (fun text value => crates.fromStr text = some value) text
    (headers name)

variable (crates) in
structure Inserts (name : String) (text : Option String)
    (headers headers' : HeaderMap HeaderValue) : Prop where
  here : headers name = none → Carries crates headers' name text
  elsewhere : ∀ other, other ≠ name → headers' other = headers other

theorem insertHeader_ok {name spelling text : String}
    {headers headers' : HeaderMap HeaderValue}
    (h : insertHeader crates name spelling text headers = .ok headers') :
    ∃ value, crates.fromStr text = some value ∧
      headers' = headers.put name value := by
  unfold insertHeader at h
  cases hvalue : crates.fromStr text with
  | none =>
      rw [hvalue] at h
      cases h
  | some value =>
      rw [hvalue] at h
      cases h
      exact ⟨value, rfl, rfl⟩

theorem inserts_header {name spelling text : String}
    {headers headers' : HeaderMap HeaderValue}
    (h : insertHeader crates name spelling text headers = .ok headers') :
    Inserts crates name (some text) headers headers' := by
  obtain ⟨value, hvalue, rfl⟩ := insertHeader_ok h
  refine ⟨fun _ => ?_, fun other hother => Table.put_of_ne hother⟩
  unfold Carries
  rw [Table.put_same]
  exact .some hvalue

theorem inserts_some {name : String} {text : Option String}
    {headers headers' : HeaderMap HeaderValue}
    (h : insertSome crates name text headers = .ok headers') :
    Inserts crates name text headers headers' := by
  cases text with
  | none =>
      cases h
      refine ⟨fun hnone => ?_, fun _ _ => rfl⟩
      unfold Carries
      rw [hnone]
      exact .none
  | some text => exact inserts_header h

structure CarriesHooks (crates : RequestCrates Url Uri HeaderValue)
    (hooks : ApiHooks) (headers : HeaderMap HeaderValue) : Prop where
  cookie :
  Carries crates headers "cookie"
    (some (deviceCookieHeader hooks.cookies hooks.identity))
  csrfToken :
  Carries crates headers "csrf-token" (hooks.cookies.lookup "csrf-token")
  knockToken : Carries crates headers "knock-token" hooks.knockToken
  jwtToken :
  Carries crates headers "jwt-token" (hooks.cookies.lookup "vpn-token")
  unsigned : headers "sign" = none

theorem baseHeaders_ok {hooks : ApiHooks} {headers : HeaderMap HeaderValue}
    (h : hooks.baseHeaders crates = .ok headers) :
    CarriesHooks crates hooks headers := by
  unfold ApiHooks.baseHeaders at h
  obtain ⟨first, hfirst, h⟩ := bind_eq_ok.mp h
  obtain ⟨second, hsecond, h⟩ := bind_eq_ok.mp h
  obtain ⟨third, hthird, h⟩ := bind_eq_ok.mp h
  obtain ⟨fourth, hfourth, h⟩ := bind_eq_ok.mp h
  obtain ⟨fifth, hfifth, h⟩ := bind_eq_ok.mp h
  have hlanguage := inserts_header hfirst
  have hagent := inserts_header hsecond
  have hcookie := inserts_header hthird
  have hcsrf := inserts_some hfourth
  have hknock := inserts_some hfifth
  have hjwt := inserts_some h
  have hthird_none {name : String} (hnames : name ≠ "accept-language" ∧
      name ≠ "user-agent") :
      second name = none := by
    rw [hagent.elsewhere name hnames.2, hlanguage.elsewhere name hnames.1]
  constructor
  · unfold Carries
    rw [hjwt.elsewhere _ (by decide), hknock.elsewhere _ (by decide),
      hcsrf.elsewhere _ (by decide)]
    exact hcookie.here (hthird_none (by decide))
  · unfold Carries
    rw [hjwt.elsewhere _ (by decide), hknock.elsewhere _ (by decide)]
    refine hcsrf.here ?_
    rw [hcookie.elsewhere _ (by decide)]
    exact hthird_none (by decide)
  · unfold Carries
    rw [hjwt.elsewhere _ (by decide)]
    refine hknock.here ?_
    rw [hcsrf.elsewhere _ (by decide), hcookie.elsewhere _ (by decide)]
    exact hthird_none (by decide)
  · refine hjwt.here ?_
    rw [hknock.elsewhere _ (by decide), hcsrf.elsewhere _ (by decide),
      hcookie.elsewhere _ (by decide)]
    exact hthird_none (by decide)
  · rw [hjwt.elsewhere _ (by decide), hknock.elsewhere _ (by decide),
      hcsrf.elsewhere _ (by decide), hcookie.elsewhere _ (by decide)]
    exact hthird_none (by decide)

theorem CarriesHooks.put {hooks : ApiHooks} {headers : HeaderMap HeaderValue}
    (h : CarriesHooks crates hooks headers) (name : String)
    (value : HeaderValue)
    (hname : name ∉
      ["cookie", "csrf-token", "knock-token", "jwt-token", "sign"]) :
    CarriesHooks crates hooks (headers.put name value) := by
  simp only [List.mem_cons, List.not_mem_nil, or_false, not_or] at hname
  obtain ⟨hcookie, hcsrf, hknock, hjwt, hsign⟩ := hname
  constructor
  · unfold Carries
    rw [Table.put_of_ne (Ne.symm hcookie)]
    exact h.cookie
  · unfold Carries
    rw [Table.put_of_ne (Ne.symm hcsrf)]
    exact h.csrfToken
  · unfold Carries
    rw [Table.put_of_ne (Ne.symm hknock)]
    exact h.knockToken
  · unfold Carries
    rw [Table.put_of_ne (Ne.symm hjwt)]
    exact h.jwtToken
  · rw [Table.put_of_ne (Ne.symm hsign)]
    exact h.unsigned

/-! ## From the client to the request that is sent -/

variable {client : ApiClient Url} {request : SendableRequest} {now : Int}

theorem prepare_ok (hlaw : crates.Lawful) {prepared : Prepared Url HeaderValue}
    (h : client.prepare crates request now = .ok prepared) :
    StartsAtRoot (crates.path prepared.url) ∧
      CarriesHooks crates client.hooks prepared.headers := by
  unfold ApiClient.prepare at h
  obtain ⟨url, hurl, h⟩ := bind_eq_ok.mp h
  obtain ⟨body, hbody, h⟩ := bind_eq_ok.mp h
  obtain ⟨headers, hheaders, h⟩ := bind_eq_ok.mp h
  cases h
  have hbase := baseHeaders_ok hheaders
  constructor
  · rw [hlaw.appendPairs_path]
    unfold endpointUrl at hurl
    split at hurl
    · rename_i hjoin
      cases hurl
      exact hlaw.join_root _ _ _ request.path_root hjoin
    · cases hurl
  · dsimp only
    have haccept :=
      hbase.put "accept" (crates.fromStatic "application/json") (by decide)
    split
    · exact haccept.put "content-type" (crates.fromStatic "application/json")
        (by decide)
    · exact haccept

theorem sign_ok {signer : SigningContext} {method : String} {url : Url}
    {headers : HeaderMap HeaderValue} {body : ByteString}
    {signed : List SignedHeader}
    (h : signer.sign crates.toSignCrates method url headers body = .ok signed) :
    signed = [] ∨ ∃ flags key, signer.signingInputFlags (crates.path url) =
      some flags ∧
      signer.hmacKey crates.toSignCrates = .ok key ∧
      signed = [⟨"Sign", "v1;" ++ crates.base64Encode (crates.encodeToVec
        ⟨signer.rootKeyVersion, flags.bits, crates.hmac.mac key
          (signingInput crates.toSignCrates method url headers body
            flags)⟩)⟩] := by
  unfold SigningContext.sign at h
  split at h
  · cases h
    exact .inl rfl
  split at h
  · cases h
    exact .inl rfl
  cases hflags : signer.signingInputFlags (crates.path url) with
  | none =>
      rw [hflags] at h
      cases h
      exact .inl rfl
  | some flags =>
      rw [hflags] at h
      obtain ⟨key, hkey, h⟩ := bind_eq_ok.mp h
      cases h
      exact .inr ⟨flags, key, rfl, hkey, rfl⟩

/-- A request that is sent with a signature, and what it was signed from. -/
structure SignedFrom (crates : RequestCrates Url Uri HeaderValue)
    (client : ApiClient Url) (request : SendableRequest)
    (sent : HttpRequest Uri HeaderValue)
    (prepared : Prepared Url HeaderValue) (flags : SigningInputFlags)
    (key : ByteString) : Prop where
  flags_eq : client.hooks.signer.signingInputFlags (crates.path prepared.url) =
    some flags
  key_eq : client.hooks.signer.hmacKey crates.toSignCrates = .ok key
  method_eq : sent.method = request.method
  body_eq : sent.body = prepared.body
  uri_eq : crates.parseUri prepared.url = .ok sent.uri
  headers_eq :
    ∃ value, crates.fromStr ("v1;" ++ crates.base64Encode (crates.encodeToVec
      ⟨client.hooks.signer.rootKeyVersion, flags.bits, crates.hmac.mac key
        (signingInput crates.toSignCrates request.method prepared.url
          prepared.headers prepared.body flags)⟩)) = some value ∧
    sent.headers = prepared.headers.put "sign" value

theorem execute_ok (hlaw : crates.Lawful) {sent : HttpRequest Uri HeaderValue}
    (h : client.execute crates request now = .ok sent)
    (hsigned : sent.headers "sign" ≠ none) :
    ∃ prepared flags key, client.prepare crates request now = .ok prepared ∧
      SignedFrom crates client request sent prepared flags key := by
  unfold ApiClient.execute at h
  obtain ⟨prepared, hprepared, h⟩ := bind_eq_ok.mp h
  obtain ⟨signed, hsign, h⟩ := bind_eq_ok.mp h
  obtain ⟨headers, hheaders, h⟩ := bind_eq_ok.mp h
  obtain ⟨uri, huri, h⟩ := bind_eq_ok.mp h
  cases h
  rw [mapError_eq_ok] at hsign huri
  rcases sign_ok hsign with rfl | ⟨flags, key, hflags, hkey, rfl⟩
  · cases hheaders
    exact absurd (prepare_ok hlaw hprepared).2.unsigned hsigned
  · refine ⟨prepared, flags, key, hprepared, hflags, hkey, rfl, rfl, huri, ?_⟩
    rw [List.foldlM_cons] at hheaders
    obtain ⟨inserted, hinserted, hlast⟩ := bind_eq_ok.mp hheaders
    cases hlast
    unfold ApiClient.insertSigned at hinserted
    split at hinserted
    · cases hinserted
    · rename_i name hname
      obtain ⟨value, hvalue, rfl⟩ := insertHeader_ok hinserted
      have hlower : toAsciiLowercase "Sign" = "sign" := by decide +kernel
      rw [(hlaw.headerName_lower _ _ hname).trans hlower]
      exact ⟨value, hvalue, rfl⟩

/-! ## What the other side makes of it -/

theorem signHeader_eq (hlaw : crates.Lawful)
    {sent : HttpRequest Uri HeaderValue} {value : HeaderValue}
    {header : HttpSignHeader}
    (hvalue : crates.fromStr
      ("v1;" ++ crates.base64Encode (crates.encodeToVec header)) =
      some value) (hsent : sent.headers "sign" = some value) :
    sent.signHeader crates = some header := by
  have hascii :
      IsAscii ("v1;" ++ crates.base64Encode (crates.encodeToVec header)) :=
    isAscii_append.mpr ⟨by decide, hlaw.base64_ascii _⟩
  have htext := hlaw.toStr_fromStr _ _ hvalue
  rw [if_pos hascii] at htext
  have hprefix :
      ("v1;" ++ crates.base64Encode
        (crates.encodeToVec header)).toList.dropPrefix?
      "v1;".toList =
          some (crates.base64Encode (crates.encodeToVec header)).toList :=
    List.dropPrefix?_eq_some_iff.mpr
      ⟨"v1;".toList, String.toList_append, by decide⟩
  simp only [HttpRequest.signHeader, hsent, htext, hprefix, Option.bind_eq_bind,
    Option.bind_some, String.ofList_toList, hlaw.base64_decode,
    hlaw.header_decode]

theorem headerPart_iff (hlaw : crates.Lawful)
    {headers headers' : HeaderMap HeaderValue} {name : String}
    {text : Option String} (hcarries : Carries crates headers name text)
    (hsame : headers' name = headers name) (flags flag : SigningInputFlags)
    (onText : String → ByteString) (onBytes : ByteString → ByteString)
    (hagree : ∀ text, IsAscii text → onText text = onBytes (utf8 text))
    (hrest : ∀ text, ¬ IsAscii text → onBytes (utf8 text) ≠ []) :
    let signed := inputPart flags flag
      ((headerValue crates.toSignCrates headers name).map onText)
    let sent := inputPart flags flag ((headers' name).map fun value =>
      onBytes (crates.asBytes value))
    (signed = sent ∨ signed = []) ∧
      (signed = sent ↔
          (flags.contains flag = true → ∀ t ∈ text, IsAscii t)) := by
  dsimp only
  unfold Carries at hcarries
  rw [hsame]
  unfold headerValue inputPart
  generalize headers name = value at hcarries
  by_cases hflag : flags.contains flag = true
  · simp only [hflag, if_true, forall_const]
    cases hcarries with
    | none => simp
    | @some text value hvalue =>
        have hread := hlaw.toStr_fromStr _ _ hvalue
        simp only [Option.bind_some, hread, hlaw.fromStr_bytes _ _ hvalue,
          Option.map_some, Option.getD_some, Option.mem_def, Option.some.injEq,
          forall_eq']
        by_cases hascii : IsAscii text
        · simp [hascii, hagree text hascii]
        · simp only [hascii, if_false, Option.map_none, Option.getD_none,
            or_true, true_and, iff_false]
          exact fun hnil => hrest text hascii hnil.symm
  · simp [hflag]

/-! ## The texts that are covered -/

theorem deviceCookieHeader_ascii {cookies : SessionCookies}
    {identity : ClientIdentity} :
    IsAscii (deviceCookieHeader cookies identity) ↔
      (∀ cookie ∈ cookies, IsAscii cookie.1 ∧ IsAscii cookie.2) ∧
        IsAscii identity.deviceId ∧
          IsAscii (deviceNameCookieValue identity) := by
  have hequals : IsAscii "=" := by decide
  have hid : IsAscii "device_id" := by decide
  have hname : IsAscii "device_name" := by decide
  unfold deviceCookieHeader
  rw [isAscii_intercalate (by decide)]
  simp only [List.map_append, List.mem_append, List.mem_map, or_imp, forall_and,
    forall_exists_index, and_imp, forall_apply_eq_imp_iff₂, isAscii_append,
    hequals, and_true, List.mem_cons, List.not_mem_nil, or_false, forall_eq,
    forall_eq', hid, hname, true_and]

/-- The texts of the selected headers are ASCII. -/
structure CoversAscii (hooks : ApiHooks)
    (flags : SigningInputFlags) : Prop where
  cookie : flags.contains .cookie = true →
    (∀ cookie ∈ hooks.cookies, IsAscii cookie.1 ∧ IsAscii cookie.2) ∧
      IsAscii hooks.identity.deviceId ∧
      IsAscii (deviceNameCookieValue hooks.identity)
  csrfToken : flags.contains .csrfToken = true →
    ∀ text ∈ hooks.cookies.lookup "csrf-token", IsAscii text
  knockToken : flags.contains .knockToken = true →
    ∀ text ∈ hooks.knockToken, IsAscii text
  jwtToken : flags.contains .jwtToken = true →
    ∀ text ∈ hooks.cookies.lookup "vpn-token", IsAscii text

theorem verifierInput_eq_iff (hlaw : crates.Lawful)
    {sent : HttpRequest Uri HeaderValue} {prepared : Prepared Url HeaderValue}
    {flags : SigningInputFlags} {key : ByteString}
    (hprepared : client.prepare crates request now = .ok prepared)
    (hfrom : SignedFrom crates client request sent prepared flags key) :
    sent.verifierInput crates flags =
        signingInput crates.toSignCrates request.method prepared.url
          prepared.headers prepared.body flags ↔
      CoversAscii client.hooks flags := by
  obtain ⟨hroot, hcarries⟩ := prepare_ok hlaw hprepared
  obtain ⟨hpath, hquery⟩ := hlaw.uri_target _ _ hroot hfrom.uri_eq
  obtain ⟨value, -, hheaders⟩ := hfrom.headers_eq
  have hkept {name : String} (hname : name ≠ "sign") :
      sent.headers name = prepared.headers name := by
    rw [hheaders, Table.put_of_ne hname]
  have hcookie :=
    headerPart_iff hlaw hcarries.cookie (hkept (by decide)) flags .cookie
    utf8 id (fun _ _ => rfl) fun _ => utf8_ne_nil
  have hcsrf := headerPart_iff hlaw hcarries.csrfToken (hkept (by decide))
    flags .csrfToken utf8 id (fun _ _ => rfl) fun _ => utf8_ne_nil
  have hknock := headerPart_iff hlaw hcarries.knockToken (hkept (by decide))
    flags .knockToken utf8 id (fun _ _ => rfl) fun _ => utf8_ne_nil
  have hjwt := headerPart_iff hlaw hcarries.jwtToken (hkept (by decide))
    flags .jwtToken
    (fun text => utf8 (trim text)) trimBytes (fun _ => utf8_trim) fun _ =>
      trimBytes_utf8_ne_nil
  have hparts (a b c d e f g h : ByteString) :
      a ++ b ++ c ++ d ++ e ++ f ++ g ++ h =
          [a, b, c, d, e, f, g, h].flatten := by
    simp only [List.flatten_cons, List.flatten_nil, List.append_assoc,
      List.append_nil]
  rw [eq_comm, HttpRequest.verifierInput, signingInput, hpath, hquery,
    hfrom.method_eq, hfrom.body_eq, hparts, hparts, Option.map_map]
  refine (flatten_eq_iff ?_).trans ?_
  · exact .cons (.inl rfl) <| .cons (.inl rfl) <| .cons (.inl rfl) <|
      .cons (.inl rfl) <|
      .cons hcookie.1 <| .cons hcsrf.1 <| .cons hknock.1 <| .cons hjwt.1 .nil
  simp only [List.cons.injEq, true_and, and_true]
  constructor
  · rintro ⟨hcookieSame, hcsrfSame, hknockSame, hjwtSame⟩
    refine ⟨fun hflag => ?_, hcsrf.2.mp hcsrfSame, hknock.2.mp hknockSame,
      hjwt.2.mp hjwtSame⟩
    exact deviceCookieHeader_ascii.mp (hcookie.2.mp hcookieSame hflag _ rfl)
  · rintro ⟨hcookieText, hcsrfText, hknockText, hjwtText⟩
    refine ⟨hcookie.2.mpr fun hflag text htext => ?_, hcsrf.2.mpr hcsrfText,
      hknock.2.mpr hknockText, hjwt.2.mpr hjwtText⟩
    cases htext
    exact deviceCookieHeader_ascii.mpr (hcookieText hflag)

/--
The `Sign` header of a request that is sent carries the flags and the MAC of the
signed input, and the other side puts the same input together exactly when the
texts that the flags select are ASCII.
-/
theorem signature_covers_iff (hlaw : crates.Lawful)
    {sent : HttpRequest Uri HeaderValue}
    (hsent : client.execute crates request now = .ok sent)
    (hsigned : sent.headers "sign" ≠ none) :
    ∃ prepared flags key header, client.prepare crates request now =
      .ok prepared ∧
      client.hooks.signer.signingInputFlags (crates.path prepared.url) =
        some flags ∧
      client.hooks.signer.hmacKey crates.toSignCrates = .ok key ∧
      sent.signHeader crates = some header ∧
        header.signingInputParams = flags.bits ∧
      header.signingResult =
        crates.hmac.mac key (signingInput crates.toSignCrates request.method
        prepared.url prepared.headers prepared.body flags) ∧
      (sent.verifierInput crates ⟨header.signingInputParams⟩ =
        signingInput crates.toSignCrates
          request.method prepared.url prepared.headers prepared.body flags ↔
        CoversAscii client.hooks flags) := by
  obtain ⟨prepared, flags, key, hprepared, hfrom⟩ :=
    execute_ok hlaw hsent hsigned
  obtain ⟨value, hvalue, hheaders⟩ := hfrom.headers_eq
  have hsign : sent.headers "sign" = some value := by
    rw [hheaders, Table.put_same]
  exact ⟨prepared, flags, key, _, hprepared, hfrom.flags_eq, hfrom.key_eq,
    signHeader_eq hlaw hvalue hsign, rfl, rfl,
    verifierInput_eq_iff hlaw hprepared hfrom⟩

/-! ## Two devices -/

def phoneClient (model : String) : ApiClient PlainUrl where
  baseUrl := ⟨"/", none⟩
  hooks :=
    { identity := ⟨"Android", "14", "2.2.17", "vendor", model, "d41d8cd9",
      "20217", "0", "android", "en", "CorpLink/20217"⟩
      cookies := [("csrf-token", "q8w3"), ("session", "9f2c")]
      knockToken := none
      signer := ⟨{ SigningConfig.default with
        enabled := true
        sharedSecret := some "secret" }⟩ }

def settingRequest : SendableRequest where
  method := "GET"
  path := "/api/setting"
  path_root := rfl
  queryPairs := []
  body := .ok none

def phoneCrates : RequestCrates PlainUrl PlainUrl ByteString :=
  plainCrates mixHmac id

theorem phone_sent (model : String)
    (h :
      (((phoneClient model).execute phoneCrates settingRequest
        1700000000).toOption.bind
      fun sent => sent.headers "sign").isSome = true) :
    ∃ sent, (phoneClient model).execute phoneCrates settingRequest 1700000000 =
      .ok sent ∧
      sent.headers "sign" ≠ none := by
  cases hsent :
      (phoneClient model).execute phoneCrates settingRequest 1700000000 with
  | error e =>
      rw [hsent] at h
      cases h
  | ok sent =>
      rw [hsent] at h
      exact ⟨sent, rfl, Option.isSome_iff_ne_none.mp h⟩

theorem signature_covers_iff_pixel :
    ∃ sent, (phoneClient "Pixel 8").execute phoneCrates settingRequest
      1700000000 = .ok sent ∧
      ∃ prepared flags key header,
        (phoneClient "Pixel 8").prepare phoneCrates settingRequest 1700000000 =
          .ok prepared ∧
        (phoneClient "Pixel 8").hooks.signer.signingInputFlags
          (phoneCrates.path prepared.url) = some flags ∧
        (phoneClient "Pixel 8").hooks.signer.hmacKey phoneCrates.toSignCrates =
          .ok key ∧
        sent.signHeader phoneCrates = some header ∧
          header.signingInputParams = flags.bits ∧
        header.signingResult = phoneCrates.hmac.mac key
          (signingInput phoneCrates.toSignCrates
          "GET" prepared.url prepared.headers prepared.body flags) ∧
        (sent.verifierInput phoneCrates ⟨header.signingInputParams⟩ =
            signingInput phoneCrates.toSignCrates "GET" prepared.url
              prepared.headers prepared.body flags ↔
          CoversAscii (phoneClient "Pixel 8").hooks flags) := by
  obtain ⟨sent, hsent, hsigned⟩ := phone_sent "Pixel 8" (by decide +kernel)
  exact ⟨sent, hsent, signature_covers_iff (plainCrates_lawful mixHmac id)
    hsent hsigned⟩

/--
The cookie names the model in characters beyond ASCII, and is sent but not
signed.
-/
theorem xiaomi_cookie_unsigned :
    ∃ sent prepared flags header,
      (phoneClient "小米 14").execute phoneCrates settingRequest 1700000000 =
        .ok sent ∧
      (phoneClient "小米 14").prepare phoneCrates settingRequest 1700000000 =
        .ok prepared ∧
      sent.signHeader phoneCrates = some header ∧
        header.signingInputParams = flags.bits ∧
      sent.verifierInput phoneCrates ⟨header.signingInputParams⟩ ≠
        signingInput phoneCrates.toSignCrates "GET" prepared.url
          prepared.headers prepared.body flags := by
  have hlaw := plainCrates_lawful mixHmac id
  obtain ⟨sent, hsent, hsigned⟩ := phone_sent "小米 14" (by decide +kernel)
  obtain ⟨prepared, flags, key, hprepared, hfrom⟩ :=
    execute_ok hlaw hsent hsigned
  obtain ⟨value, hvalue, hheaders⟩ := hfrom.headers_eq
  have hsign : sent.headers "sign" = some value := by
    rw [hheaders, Table.put_same]
  refine ⟨sent, prepared, flags, _, hsent, hprepared,
    signHeader_eq hlaw hvalue hsign, rfl, ?_⟩
  have hflags : flags.contains .cookie = true := by
    have hdefault := hfrom.flags_eq
    cases hdefault
    decide +kernel
  intro hsame
  have hcovers := (verifierInput_eq_iff hlaw hprepared hfrom).mp hsame
  exact absurd (hcovers.cookie hflags).2.2 (by decide +kernel)

end Rustylink.Api
