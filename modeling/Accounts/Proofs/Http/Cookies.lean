import Accounts.Proofs.Account.Subject
import Accounts.Proofs.Http.Failures
import Accounts.Proofs.Service.Separation
import Accounts.Proofs.Text.Lowercase
import Accounts.Proofs.Text.Percent
import Accounts.Proofs.Text.Split
import Accounts.Proofs.Text.Trim
import Accounts.Proofs.Token.Signed
import Mathlib.Data.Bool.AllAny

/-!
# Tokens in cookies

A token that is written into a cookie is read from it as it was, whichever characters it has,
wherever the cookie stands among others and whatever blanks are around it. Tokens that were issued
need no encoding at all.

* `Cookie.ofPiece?_padded` — a name and a value that were written are read back.
* `Request.Carries` — a pair stands among the cookies of a request and has no rival there.
* `Request.cookie?_of_carries` — such a pair is found.
* `cookies_carry_tokens` — the cookies that are set, and what is read from them.

A `Cookie` header is text or it is nothing: a byte that is not visible, in whichever cookie, hides
all of them.
-/

namespace Accounts.Http

open Text (isBlank)

/-! ## Writing and reading -/

namespace Cookie

theorem isPlain_lt : ∀ b, isPlain b = true → b < 128 :=
  Utf8.forall_byte (P := fun b => isPlain b = true → b < 128) (by decide +kernel)

theorem keepable_isPlain : Percent.Keepable isPlain := ⟨isPlain_lt, by decide⟩

/-- The characters of encoded texts: visible ones, without those that separate cookies or stand
around them. -/
structure IsWritten (c : Char) : Prop where
  ne_semicolon : c ≠ ';'
  ne_equals : c ≠ '='
  not_blank : isBlank c = false
  visible : 32 ≤ c.toNat ∧ c.toNat < 127

instance (c : Char) : Decidable (IsWritten c) :=
  decidable_of_iff (c ≠ ';' ∧ c ≠ '=' ∧ isBlank c = false ∧ 32 ≤ c.toNat ∧ c.toNat < 127)
    ⟨fun h => ⟨h.1, h.2.1, h.2.2.1, h.2.2.2⟩, fun h => ⟨h.1, h.2, h.3, h.4⟩⟩

theorem isWritten_of_mem_encoded {text : String} {c : Char} (h : c ∈ (encoded text).toList) :
    IsWritten c := by
  have hplain : ∀ b, isPlain b = true → IsWritten (Char.ofNat b.toNat) :=
    Utf8.forall_byte (P := fun b => isPlain b = true → IsWritten (Char.ofNat b.toNat))
      (by decide +kernel)
  have hdigit : ∀ n < 16, IsWritten (Percent.hexDigit n) := by decide
  rw [encoded, String.toList_ofList] at h
  rcases Percent.mem_encode h with ⟨b, -, hb, rfl⟩ | rfl | ⟨n, hn, rfl⟩
  · exact hplain b hb
  · decide
  · exact hdigit n hn

@[simp] theorem decoded?_encoded (text : String) : decoded? (encoded text).toList = some text := by
  rw [decoded?, encoded, String.toList_ofList, Percent.decode_encode keepable_isPlain,
    Utf8.decode?_encode]

theorem toList_encoded_ne_nil {text : String} (h : text ≠ "") : (encoded text).toList ≠ [] := by
  intro hnil
  have hread := decoded?_encoded text
  rw [hnil] at hread
  exact h (Option.some.inj hread).symm

/-- A name and a value as they stand in a `Cookie` header. -/
def pair (name value : String) : List Char := (encoded name).toList ++ '=' :: (encoded value).toList

theorem mem_pair {name value : String} {c : Char} (h : c ∈ pair name value) :
    c ≠ ';' ∧ 32 ≤ c.toNat ∧ c.toNat < 127 := by
  rcases List.mem_append.1 h with h | h
  · exact ⟨(isWritten_of_mem_encoded h).ne_semicolon, (isWritten_of_mem_encoded h).visible⟩
  · rcases List.mem_cons.1 h with rfl | h
    · decide
    · exact ⟨(isWritten_of_mem_encoded h).ne_semicolon, (isWritten_of_mem_encoded h).visible⟩

theorem exists_toList_attributes (c : Cookie) : ∃ rest, c.attributes.toList = ';' :: rest := by
  have hfirst : "; HttpOnly; SameSite=Lax".toList = ';' :: " HttpOnly; SameSite=Lax".toList := rfl
  delta attributes
  simp only [String.append_assoc]
  rw [String.toList_append, hfirst, List.cons_append]
  exact ⟨_, rfl⟩

theorem takeWhile_header (c : Cookie) :
    c.header.toList.takeWhile (· ≠ ';') = pair c.name c.value := by
  have hheader : c.header.toList = pair c.name c.value ++ c.attributes.toList := by
    simp [header, pair]
  obtain ⟨rest, hrest⟩ := c.exists_toList_attributes
  have hpair : ∀ x ∈ pair c.name c.value, decide (x ≠ ';') = true := fun x hx =>
    decide_eq_true (mem_pair hx).1
  rw [hheader, hrest, List.takeWhile_append_of_pos hpair]
  simp

/-- **A name and a value that were written are read back**, with any blanks around them. -/
theorem ofPiece?_padded {name : String} (hname : name ≠ "") (value : String)
    {left right : List Char}
    (hleft : ∀ c ∈ left, isBlank c = true) (hright : ∀ c ∈ right, isBlank c = true) :
    ofPiece? (left ++ (pair name value ++ right)) = some (name, value) := by
  have hequals : '=' ∉ left ++ (encoded name).toList := by
    rw [List.mem_append]
    rintro (h | h)
    · exact absurd (hleft _ h) (by decide)
    · exact (isWritten_of_mem_encoded h).ne_equals rfl
  have hsplit : Text.splitFirst '=' (left ++ (pair name value ++ right)) =
      some (left ++ (encoded name).toList, (encoded value).toList ++ right) :=
    Text.splitFirst_eq_some.2 ⟨by simp [pair], hequals⟩
  have htrim : Text.trim (left ++ (encoded name).toList) = (encoded name).toList := by
    simpa using Text.trim_padded hleft (List.forall_mem_nil _) fun c hc =>
      (isWritten_of_mem_encoded hc).not_blank
  have htrim' : Text.trim ((encoded value).toList ++ right) = (encoded value).toList := by
    simpa using Text.trim_padded (List.forall_mem_nil _) hright fun c hc =>
      (isWritten_of_mem_encoded hc).not_blank
  have hempty : (encoded name).toList.isEmpty = false :=
    List.isEmpty_eq_false_iff.2 (toList_encoded_ne_nil hname)
  simp [ofPiece?, hsplit, htrim, htrim', hempty]

end Cookie

/-! ## Finding -/

namespace Request

variable {r : Request} {name token : String}

/-- What stands between the semicolons of the `Cookie` headers that are visible. -/
def cookiePieces (r : Request) : List (List Char) :=
  ((r.headerValues "cookie").filterMap visibleText?).flatMap (Text.split ';')

theorem cookies_eq (r : Request) : r.cookies = r.cookiePieces.filterMap Cookie.ofPiece? := by
  rw [cookies, cookiePieces, List.filterMap_flatMap]

/-- Of equal names the last counts. -/
theorem cookie?_eq_some : r.cookie? name = some token ↔
    ∃ before after, r.cookies = before ++ (name, token) :: after ∧ ∀ p ∈ after, p.1 ≠ name := by
  rw [cookie?, List.lookup_eq_some_iff]
  constructor
  · rintro ⟨after, before, h, hafter⟩
    refine ⟨before.reverse, after.reverse, ?_, ?_⟩
    · rw [← List.reverse_reverse r.cookies, h]
      simp
    · intro p hp
      exact (bne_iff_ne.1 (hafter p (List.mem_reverse.1 hp))).symm
  · rintro ⟨before, after, h, hafter⟩
    refine ⟨after.reverse, before.reverse, by simp [h], ?_⟩
    intro p hp
    exact bne_iff_ne.2 (hafter p (List.mem_reverse.1 hp)).symm

/-- A pair stands among the cookies of a request, and no other of them is read as one of its
name. -/
def Carries (r : Request) (name : String) (pair : List Char) : Prop :=
  ∃ before left right after, r.cookiePieces = before ++ (left ++ (pair ++ right)) :: after ∧
    (∀ c ∈ left, isBlank c = true) ∧ (∀ c ∈ right, isBlank c = true) ∧
    ∀ other ∈ before ++ after, ∀ value, Cookie.ofPiece? other ≠ some (name, value)

/-- **A pair without a rival is found.** -/
theorem cookie?_of_carries (hname : name ≠ "") (h : r.Carries name (Cookie.pair name token)) :
    r.cookie? name = some token := by
  obtain ⟨before, left, right, after, hpieces, hleft, hright, hothers⟩ := h
  refine cookie?_eq_some.2
    ⟨before.filterMap Cookie.ofPiece?, after.filterMap Cookie.ofPiece?, ?_, ?_⟩
  · rw [cookies_eq, hpieces, List.filterMap_append, List.filterMap_cons,
      Cookie.ofPiece?_padded hname token hleft hright]
  · rintro ⟨other, value⟩ hp rfl
    obtain ⟨piece, hpiece, hread⟩ := List.mem_filterMap.1 hp
    exact hothers piece (List.mem_append_right _ hpiece) value hread

end Request

/-! ## Texts in headers -/

/-- A text of visible ASCII characters is what the header says that has its bytes. -/
theorem visibleText?_encode {cs : List Char} (h : ∀ c ∈ cs, 32 ≤ c.toNat ∧ c.toNat < 127) :
    visibleText? (Utf8.encode (String.ofList cs)) = some cs := by
  have hchar : ∀ n < 0x80, 32 ≤ (Char.ofNat n).toNat ∧ (Char.ofNat n).toNat < 127 →
      String.utf8EncodeChar (Char.ofNat n) = [UInt8.ofNat n] ∧ isVisible (UInt8.ofNat n) = true ∧
        (UInt8.ofNat n).toNat = n := by decide
  have hbyte {c : Char} (hc : c ∈ cs) : String.utf8EncodeChar c = [UInt8.ofNat c.toNat] ∧
      isVisible (UInt8.ofNat c.toNat) = true ∧ (UInt8.ofNat c.toNat).toNat = c.toNat := by
    have := hchar c.toNat (Nat.lt_trans (h c hc).2 (by decide))
    rw [Char.ofNat_toNat] at this
    exact this (h c hc)
  have hbytes : Utf8.encode (String.ofList cs) = cs.map fun c => UInt8.ofNat c.toNat := by
    rw [Utf8.encode_ofList]
    calc cs.flatMap String.utf8EncodeChar
      _ = cs.flatMap (fun c => [UInt8.ofNat c.toNat]) := List.flatMap_congr fun c hc => (hbyte hc).1
      _ = cs.map fun c => UInt8.ofNat c.toNat := List.map_eq_flatMap.symm
  have hvisible : (cs.map fun c => UInt8.ofNat c.toNat).all isVisible = true := by
    simpa using fun c hc => (hbyte hc).2.1
  rw [visibleText?, hbytes, if_pos hvisible, List.map_map]
  refine congrArg some ?_
  calc cs.map ((fun b : UInt8 => Char.ofNat b.toNat) ∘ fun c => UInt8.ofNat c.toNat)
    _ = cs.map id := List.map_congr_left fun c hc => by
      rw [Function.comp_apply, (hbyte hc).2.2, Char.ofNat_toNat, id]
    _ = cs := List.map_id cs

theorem Request.headerValues_single {r : Request} {other : String} {value : List UInt8}
    (h : r.headers = [(other, value)]) (name : String) :
    r.headerValues name = if other.toLower = name then [value] else [] := by
  simp only [headerValues, h, List.filter_cons, List.filter_nil, beq_iff_eq]
  split <;> rfl

theorem Request.carries_second {r : Request} {name token : String} {first : List Char}
    (hheaders : r.headers =
      [("cookie", Utf8.encode (String.ofList (first ++ ';' :: ' ' :: Cookie.pair name token)))])
    (hvisible : ∀ c ∈ first, 32 ≤ c.toNat ∧ c.toNat < 127) (hone : ';' ∉ first)
    (hfirst : (Cookie.ofPiece? first).map Prod.fst ≠ some name) :
    r.Carries name (Cookie.pair name token) := by
  have hheader := headerValues_single hheaders "cookie"
  rw [if_pos (by decide +kernel)] at hheader
  have hall : ∀ c ∈ first ++ ';' :: ' ' :: Cookie.pair name token,
      32 ≤ c.toNat ∧ c.toNat < 127 := by
    intro c hc
    simp only [List.mem_append, List.mem_cons] at hc
    rcases hc with hc | rfl | rfl | hc
    · exact hvisible c hc
    · decide
    · decide
    · exact (Cookie.mem_pair hc).2
  have hlast : ';' ∉ ' ' :: Cookie.pair name token := by
    rintro (_ | ⟨_, h⟩)
    exact (Cookie.mem_pair h).1 rfl
  have hother : ∀ value, Cookie.ofPiece? first ≠ some (name, value) := by
    intro value h
    exact hfirst (by rw [h, Option.map_some])
  refine ⟨[first], [' '], [], [], ?_, List.all_iff_forall_prop.1 (by decide), List.forall_mem_nil _,
    by simpa using hother⟩
  rw [cookiePieces, hheader, List.filterMap_cons, visibleText?_encode hall, List.filterMap_nil,
    List.flatMap_singleton, Text.split_append hone, Text.split_of_not_mem hlast, List.append_nil]
  rfl

/-! ## Tokens that need no encoding -/

/-- A text of the characters of URL-safe Base64, and dots. -/
def IsUrlSafe (token : String) : Prop :=
  ∀ c ∈ token.toList, c.isAlphanum = true ∨ c = '-' ∨ c = '_' ∨ c = '.'

theorem IsUrlSafe.visible {token : String} (h : IsUrlSafe token) :
    ∀ c ∈ token.toList, 32 < c.toNat ∧ c.toNat < 127 := by
  intro c hc
  rcases h c hc with hc | rfl | rfl | rfl
  · have hclass : (c.isUpper || c.isLower || c.isDigit) = true := hc
    rw [Bool.or_eq_true, Bool.or_eq_true] at hclass
    rcases hclass with (hc | hc) | hc
    · have := Text.isUpper_iff.1 hc
      omega
    · have := Text.isLower_iff.1 hc
      omega
    · have := Integer.toNat_of_isDigit hc
      omega
  all_goals decide

theorem IsUrlSafe.not_blank {token : String} (h : IsUrlSafe token) :
    ∀ c ∈ token.toList, isBlank c = false := by
  intro c hc
  have hrange := h.visible c hc
  simp only [isBlank, Bool.or_eq_false_iff, Bool.and_eq_false_iff, decide_eq_false_iff_not,
    beq_eq_false_iff_ne]
  omega

theorem IsUrlSafe.encoded_eq_self {token : String} (h : IsUrlSafe token) :
    Cookie.encoded token = token := by
  have hchar : ∀ c ∈ token.toList,
      Percent.encode Cookie.isPlain (String.utf8EncodeChar c) = [c] := fun c hc =>
    Text.forall_ascii (P := fun c => c.isAlphanum = true ∨ c = '-' ∨ c = '_' ∨ c = '.' →
      Percent.encode Cookie.isPlain (String.utf8EncodeChar c) = [c]) (by decide +kernel)
      (Nat.lt_trans (h.visible c hc).2 (by decide)) (h c hc)
  have htoken : Percent.encode Cookie.isPlain (Utf8.encode token) = token.toList := by
    rw [← String.ofList_toList (s := token), Utf8.encode_ofList, String.toList_ofList,
      Percent.encode, List.flatMap_assoc]
    calc token.toList.flatMap (fun c => Percent.encode Cookie.isPlain (String.utf8EncodeChar c))
      _ = token.toList.flatMap (fun c => [c]) := List.flatMap_congr hchar
      _ = token.toList := by simp
  rw [Cookie.encoded, htoken, String.ofList_toList]

theorem isUrlSafe_sign (c : Token.Claims) (key : Token.Key) : IsUrlSafe (Token.sign c key) := by
  have hsegment {text : List Char} (h : Token.IsSegment text) :
      ∀ c ∈ text, c.isAlphanum = true ∨ c = '-' ∨ c = '_' ∨ c = '.' :=
    fun c hc => (h.urlSafe c hc).imp_right (Or.imp_right .inl)
  intro x hx
  rw [Token.sign, String.toList_ofList, Token.message] at hx
  simp only [List.mem_append, List.mem_cons] at hx
  rcases hx with (hx | rfl | hx) | rfl | hx
  · exact hsegment (Token.isSegment_segment (by decide)) x hx
  · simp
  · exact hsegment (Token.isSegment_segment c.encode_ne_nil) x hx
  · simp
  · exact hsegment (Token.isSegment_signature key _) x hx

theorem Cookie.pair_eq {name value : String} (hname : IsUrlSafe name) (hvalue : IsUrlSafe value) :
    pair name value = (name ++ "=" ++ value).toList := by
  rw [pair, hname.encoded_eq_self, hvalue.encoded_eq_self]
  simp

/-- The cookie of such a token is written with the token as it is. -/
theorem Cookie.header_ofToken {name token : String} (hname : IsUrlSafe name)
    (htoken : IsUrlSafe token)
    (lifetime : Time.Span) (isSecure : Bool) :
    (ofToken name token lifetime isSecure).header =
      plain ⟨name, token, lifetime.wholeSeconds, isSecure⟩ := by
  rw [header, plain, ofToken, hname.encoded_eq_self, htoken.encoded_eq_self]

theorem isUrlSafe_accessCookie : IsUrlSafe accessCookie := List.all_iff_forall_prop.1 (by decide)

theorem isUrlSafe_refreshCookie : IsUrlSafe refreshCookie := List.all_iff_forall_prop.1 (by decide)

namespace Server

variable {s : Server} {ambient : Ambient} {r : Request} {response : Response}

/-! ## What is set -/

theorem answered_eq_ok {call : StoreCall} {f : Except StoreFault call.Result → Answer}
    {a : call.Answer} (h : s.answered f a = .ok response) (hstatus : response.status = 200) :
    ∃ found, f found = .ok response := by
  cases a with
  | some found => exact ⟨found, h⟩
  | none =>
    simp only [answered] at h
    split at h
    · cases h
      cases hstatus
    · exact ⟨_, h⟩

theorem status_ne_of_refuse {refusal : Refusal} (h : refuse refusal = .ok response) :
    response.status ≠ 200 := by
  cases h
  exact status_refusal_ne (by decide) refusal

section

variable {σ : Type} {answer : (call : StoreCall) → σ → call.Answer × σ} {state : σ}

theorem exists_served {e : Endpoint} (hmethod : r.method = "POST")
    (hpath : Endpoint.ofPath? r.path = some e) (hpost : e.methods = ["POST"])
    (h : ((s.handle ambient r).runWith answer state).1 = .ok response) :
    ∃ served, ((s.limit (s.serve ambient e r)).runWith answer state).1 = .ok served ∧
      response = finish "POST" served := by
  rw [runWith_handle (by simp [hmethod]), route_of_path hpath (by simp [hpost, hmethod]),
    hmethod] at h
  obtain ⟨served, hserved, rfl⟩ := Except.map_eq_ok.1 h
  exact ⟨served, hserved, rfl⟩

/-- A login sets the cookies of the tokens that it tells. -/
theorem cookies_login (hmethod : r.method = "POST") (hpath : Endpoint.ofPath? r.path = some .login)
    (h : ((s.handle ambient r).runWith answer state).1 = .ok response)
    (hstatus : response.status = 200) :
    ∃ pair : TokenPair, IsUrlSafe pair.access ∧ IsUrlSafe pair.refresh ∧
      response.body = some (envelope 200 (.object [("accessToken", .text pair.access),
        ("refreshToken", .text pair.refresh)])) ∧
      response.cookies =
        [(s.cookieOfAccess pair.access).header, (s.cookieOfRefresh pair.refresh).header] := by
  obtain ⟨served, hserved, rfl⟩ := exists_served hmethod hpath rfl h
  rw [status_finish] at hstatus
  simp only [serve] at hserved
  rcases login_cases s ambient r with
    ⟨_, -, hlogin⟩ | ⟨_, _, -, -, hlogin⟩ | ⟨_, _, -, -, hlogin⟩ <;> rw [hlogin] at hserved
  · exact absurd hstatus (status_ne_of_refuse hserved)
  · exact absurd hstatus (status_ne_of_refuse hserved)
  · rw [runWith_limit_asking] at hserved
    obtain ⟨found, hfound⟩ := answered_eq_ok hserved hstatus
    obtain ⟨result, hgrant, hanswer⟩ := Except.bind_eq_ok.1 hfound
    cases result with
    | error fault => exact absurd hstatus (status_ne_of_refuse hanswer)
    | ok pair =>
      cases hanswer
      obtain ⟨subject, hpair⟩ := Service.exists_issuePair_of_grant hgrant
      obtain ⟨haccess, hrefresh⟩ := Authenticator.issuePair_eq_ok.1 hpair
      obtain ⟨_, _, -, haccess⟩ := Token.exists_sign_of_issue haccess
      obtain ⟨_, _, -, hrefresh⟩ := Token.exists_sign_of_issue hrefresh
      exact ⟨pair, haccess ▸ isUrlSafe_sign _ _, hrefresh ▸ isUrlSafe_sign _ _, rfl, rfl⟩

/-- A refresh sets the cookie of the token that it tells. -/
theorem cookies_refresh (hmethod : r.method = "POST")
    (hpath : Endpoint.ofPath? r.path = some .refresh)
    (h : ((s.handle ambient r).runWith answer state).1 = .ok response)
    (hstatus : response.status = 200) :
    ∃ token, IsUrlSafe token ∧
      response.body = some (envelope 200 (.object [("accessToken", .text token)])) ∧
      response.cookies = [(s.cookieOfAccess token).header] := by
  obtain ⟨served, hserved, rfl⟩ := exists_served hmethod hpath rfl h
  rw [status_finish] at hstatus
  simp only [serve] at hserved
  rcases refresh_cases s ambient r with ⟨-, hrefresh⟩ | ⟨-, ⟨_, -, hrefresh⟩ | ⟨_, -, hrefresh⟩⟩ <;>
    rw [hrefresh] at hserved
  · exact absurd hstatus (status_ne_of_refuse hserved)
  · exact absurd hstatus (status_ne_of_refuse hserved)
  · rw [runWith_limit_asking] at hserved
    obtain ⟨found, hfound⟩ := answered_eq_ok hserved hstatus
    obtain ⟨result, hrenew, hanswer⟩ := Except.bind_eq_ok.1 hfound
    cases result with
    | error fault => exact absurd hstatus (status_ne_of_refuse hanswer)
    | ok token =>
      cases hanswer
      obtain ⟨subject, htoken⟩ := Service.exists_issueAccess_of_renew hrenew
      obtain ⟨_, _, -, hsign⟩ := Token.exists_sign_of_issue htoken
      exact ⟨token, hsign ▸ isUrlSafe_sign _ _, rfl, rfl⟩

end

end Server

/-! ## What is read -/

section

variable {r : Request} {token : String}

/-- The guard of sessions takes the cookie if there is no header. -/
theorem Request.accessToken_of_cookie (hheader : r.header? "authorization" = none)
    (hcookie : r.cookie? accessCookie = some token) (htoken : token ≠ "") :
    r.accessToken = .ok token := by
  have hfilter : (some token).filter (· != "") = some token := by simp [htoken]
  simp only [accessToken, hheader, hcookie, hfilter]

/-- The refresh token in the body of a request, if there is one that is not empty. -/
def Request.refreshTokenInBody (r : Request) : Option String :=
  ((r.readBody RefreshBody.reader).toOption.bind (·.refreshToken)).filter (· != "")

/-- A refresh takes the cookie if there is no token in the body. -/
theorem Server.presentedToken_of_cookie (hbody : r.refreshTokenInBody = none)
    (hcookie : r.cookie? refreshCookie = some token) : presentedToken r = token := by
  have hbody : ((r.readBody RefreshBody.reader).toOption.bind (·.refreshToken)).filter (· != "") =
      none := hbody
  simp [presentedToken, hbody, hcookie]

end

/-- **Cookies carry tokens without loss.** A login that succeeds sets the cookies of the two tokens
in its body and no others, a refresh that of the one token, and they live as long as their tokens.
What a cookie begins with when it is set is read as the token by whoever looks for it, wherever it
stands in the visible `Cookie` headers of a request, if nothing else there is read as a cookie of
its name. -/
theorem cookies_carry_tokens (s : Server) (ambient : Ambient) (r : Request) :
    (∀ (σ : Type) (answer : (call : StoreCall) → σ → call.Answer × σ) (state : σ) response,
      r.method = "POST" → ((s.handle ambient r).runWith answer state).1 = .ok response →
      response.status = 200 →
      let a := s.service.authenticator
      (r.path = Endpoint.login.path → ∃ pair : TokenPair,
        response.body = some (envelope 200 (.object [("accessToken", .text pair.access),
          ("refreshToken", .text pair.refresh)])) ∧
        response.cookies =
          [Cookie.plain ⟨accessCookie, pair.access, a.accessLifetime.wholeSeconds, s.secureCookies⟩,
            Cookie.plain
              ⟨refreshCookie, pair.refresh, a.refreshLifetime.wholeSeconds, s.secureCookies⟩]) ∧
      (r.path = Endpoint.refresh.path → ∃ token,
        response.body = some (envelope 200 (.object [("accessToken", .text token)])) ∧
        response.cookies =
          [Cookie.plain ⟨accessCookie, token, a.accessLifetime.wholeSeconds, s.secureCookies⟩])) ∧
    ∀ name token lifetime isSecure, token ≠ "" →
      r.Carries name
        ((Cookie.ofToken name token lifetime isSecure).header.toList.takeWhile (· ≠ ';')) →
      (name = accessCookie → r.header? "authorization" = none → r.accessToken = .ok token) ∧
      (name = refreshCookie → r.refreshTokenInBody = none → Server.presentedToken r = token) := by
  refine ⟨?_, ?_⟩
  · intro σ answer state response hmethod hhandle hstatus a
    refine ⟨?_, ?_⟩
    · intro hpath
      obtain ⟨pair, haccess, hrefresh, hbody, hcookies⟩ :=
        Server.cookies_login hmethod (by rw [hpath]; rfl) hhandle hstatus
      refine ⟨pair, hbody, ?_⟩
      rw [hcookies, Server.cookieOfAccess, Server.cookieOfRefresh,
        Cookie.header_ofToken isUrlSafe_accessCookie haccess,
        Cookie.header_ofToken isUrlSafe_refreshCookie hrefresh]
    · intro hpath
      obtain ⟨token, htoken, hbody, hcookies⟩ :=
        Server.cookies_refresh hmethod (by rw [hpath]; rfl) hhandle hstatus
      refine ⟨token, hbody, ?_⟩
      rw [hcookies, Server.cookieOfAccess, Cookie.header_ofToken isUrlSafe_accessCookie htoken]
  · intro name token lifetime isSecure htoken hcarries
    rw [Cookie.takeWhile_header] at hcarries
    refine ⟨?_, ?_⟩
    · rintro rfl hheader
      exact Request.accessToken_of_cookie hheader
        (Request.cookie?_of_carries (by decide) hcarries) htoken
    · rintro rfl hbody
      exact Server.presentedToken_of_cookie hbody (Request.cookie?_of_carries (by decide) hcarries)

/-- A refresh token that comes in the second of two cookies, and the cookie of the access token that
it is exchanged for. -/
theorem cookies_carry_tokens_refreshed :
    ∃ (s : Server) (ambient : Ambient) (r : Request) (store : Store) (response : Response)
      (presented token : String),
      r.headers = [("cookie", Utf8.encode (String.ofList
        ("theme=dark".toList ++ ';' :: ' ' :: Cookie.pair refreshCookie presented)))] ∧
      Server.presentedToken r = presented ∧
      ((s.handle ambient r).runWith (Store.answer ⟨0⟩) store).1 = .ok response ∧
      response.status = 200 ∧
      response.cookies = [Cookie.plain ⟨accessCookie, token, 900, true⟩] := by
  let settings : AuthSettings :=
    ⟨"access", "refresh", "cursor", "issuer", .ofSeconds 900, .ofSeconds 900, ⟨8, 1, 1, 32⟩⟩
  let stamp : Token.Stamp := ⟨⟨0⟩, ⟨0⟩, ⟨List.replicate 16 0, rfl⟩⟩
  let ambient : Ambient := ⟨0, ⟨List.replicate 16 0, rfl⟩, stamp, stamp, .wrapping⟩
  let found : Account := ⟨⟨1⟩, ⟨⟨"a@b", rfl⟩⟩, "hash", true, false, ⟨0⟩, ⟨0⟩⟩
  let store : Store := ⟨1, [(⟨1⟩, found)], []⟩
  obtain ⟨a, ha⟩ : ∃ a, Authenticator.ofSettings settings = .ok a := ⟨_, rfl⟩
  obtain ⟨-, -, -, haccess, hlife⟩ := Authenticator.ofSettings_eq_ok.1 ha
  let s : Server := ⟨⟨a, 1⟩, true, 2⟩
  obtain ⟨t, ht⟩ : ∃ t, a.issueRefresh stamp (AccountId.mk 1).text = .ok t :=
    ⟨_, Token.issue_eq_ok.2 ⟨⟨900 * Time.nanosPerSecond⟩, hlife ▸ rfl, rfl⟩⟩
  obtain ⟨c, hc, hsubject⟩ : ∃ c, a.codec.verify 0 t .refresh = .ok c ∧
      c.subject = (AccountId.mk 1).text := Token.verify_issue ht rfl (hlife ▸ by decide)
  have hnonempty : t ≠ "" := by
    rintro rfl
    cases Token.not_blank_of_verify hc
  obtain ⟨token, htoken⟩ : ∃ token, a.issueAccess stamp (AccountId.mk 1).text = .ok token :=
    ⟨_, Token.issue_eq_ok.2 ⟨⟨900 * Time.nanosPerSecond⟩, haccess ▸ rfl, rfl⟩⟩
  let r : Request := ⟨"POST", "/api/v1/refresh", [("cookie", Utf8.encode (String.ofList
    ("theme=dark".toList ++ ';' :: ' ' :: Cookie.pair refreshCookie t)))], []⟩
  have hpath : r.path = "/api/v1/refresh" := by
    show String.ofList ("/api/v1/refresh".toList.takeWhile fun c => c != '?' && c != '#') = _
    decide
  have hcarries : r.Carries refreshCookie (Cookie.pair refreshCookie t) :=
    Request.carries_second rfl (List.all_iff_forall_prop.1 (by decide)) (by decide)
      (by decide +kernel)
  have hbody : r.refreshTokenInBody = none := by
    have hheader := Request.headerValues_single (r := r) rfl "content-type"
    rw [if_neg (by decide +kernel)] at hheader
    have hjson : r.announcesJson = false := by
      simp [Request.announcesJson, Request.header?, hheader]
    simp only [Request.refreshTokenInBody, Request.readBody, hjson]
    rfl
  have hpresented : Server.presentedToken r = t := by
    refine ((cookies_carry_tokens s ambient r).2 _ t (.ofSeconds 900) true hnonempty ?_).2 rfl hbody
    rw [Cookie.takeWhile_header]
    exact hcarries
  obtain ⟨response, hresponse, hstatus⟩ : ∃ response,
      ((s.handle ambient r).runWith (Store.answer ⟨0⟩) store).1 = .ok response ∧
        response.status = 200 := by
    have haccount : s.service.refreshedAccount ambient.now t = .ok ⟨1⟩ :=
      Service.refreshedAccount_eq_ok.2
        ⟨c, hc, hsubject ▸ AccountId.ofText_text (n := 1) (by decide) (by decide)⟩
    have hrefresh : s.refresh ambient r = s.asking (.findById ⟨1⟩)
        fun found => (s.service.renew ambient found).bind s.answerRefresh := by
      simp only [Server.refresh, Service.refresh, hpresented, Token.not_blank_of_verify hc,
        haccount]
      rfl
    have hrenew : s.service.renew ambient (.ok (some found)) = .ok (.ok token) := by
      rw [Service.renew]
      exact Except.map_eq_ok.2 ⟨token, htoken, rfl⟩
    have hfound : Store.answer ⟨0⟩ (.findById ⟨1⟩) store = (some (.ok (some found)), store) := rfl
    rw [Server.runWith_handle (show "POST" ≠ "OPTIONS" by decide),
      Server.route_of_path (e := .refresh) (by rw [hpath]; rfl) rfl, Server.serve, hrefresh,
      Server.runWith_limit_asking, hfound]
    simp only [Server.answered, hrenew]
    exact ⟨_, rfl, rfl⟩
  obtain ⟨_, -, hcookies⟩ := ((cookies_carry_tokens s ambient r).1 _ _ _ response rfl hresponse
    hstatus).2 hpath
  exact ⟨s, ambient, r, store, response, t, _, rfl, hpresented, hresponse, hstatus,
    haccess ▸ hcookies⟩

/-- **What hides a cookie, and what takes its place.** A byte of another cookie that is not visible,
and a name that is another one only until it is decoded. -/
theorem cookies_hidden_or_replaced :
    let cookie := Cookie.ofToken accessCookie "abc" (.ofSeconds 900) true
    let beside (other : String) : Request := ⟨"GET", "/api/v1/session",
      [("cookie", Utf8.encode
        (String.ofList (cookie.header.toList.takeWhile (· ≠ ';')) ++ "; " ++ other))],
      []⟩
    (beside "theme=dark").accessToken = .ok "abc" ∧
    (beside "theme=\u00e9").accessToken = .error (.unauthorized "Missing access token") ∧
    (beside "access%54oken=x").accessToken = .ok "x" := by
  intro cookie beside
  refine ⟨?_, ?_, ?_⟩
  · decide +kernel
  · decide +kernel
  · decide +kernel

end Accounts.Http
