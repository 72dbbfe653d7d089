import RecordSmith.Proofs.Loading.Name

/-!
# What comes of loading from a URL

A document is loaded exactly from a URL with a scheme and an authority, to which a response comes
that stands for no failure: its content is the text of the response without a byte order mark.  Most
else is refused with a message.  Without one end an authority that no URL can have, a failure of the
protocol that comes without a response, and a response without a text.  That a response has a text
is up to what makes the requests, which promises one in any encoding.
-/

namespace RecordSmith

/-- The failure has a message and is not that something is missing. -/
def LoadError.IsAnnounced (error : LoadError) : Prop :=
  error.message?.isSome = true ∧ error.isMissing = false

/-! ## Texts without a byte order mark -/

/-- One byte order mark at the start of the text is not part of the content. -/
def Text.HasContent (t content : Text) : Prop :=
  t = byteOrderMark :: content ∨ t.head? ≠ some byteOrderMark ∧ t = content

theorem Text.hasContent_iff {t content : Text} :
    t.HasContent content ↔ content = dropByteOrderMark t := by
  rw [HasContent, dropByteOrderMark]
  cases hmark : dropStart? [byteOrderMark] t with
  | some rest =>
      obtain rfl := dropStart?_eq_some_iff.mp hmark
      rw [Option.getD_some, List.singleton_append, List.head?_cons]
      constructor
      · rintro (h | ⟨h, _⟩)
        · exact (List.cons.inj h).2.symm
        · exact absurd rfl h
      · rintro rfl
        exact Or.inl rfl
  | none =>
      have hhead : t.head? ≠ some byteOrderMark := by
        intro h
        obtain ⟨rest, rfl⟩ := List.head?_eq_some_iff.mp h
        exact dropStart?_eq_none_iff.mp hmark ⟨rest, rfl⟩
      rw [Option.getD_none]
      constructor
      · rintro (rfl | ⟨_, rfl⟩)
        · exact absurd rfl hhead
        · rfl
      · rintro rfl
        exact Or.inr ⟨hhead, rfl⟩

/-- The response has a text in its encoding. -/
def Response.IsReadable (response : Response) : Prop := ∃ t, response.text? = some t

/-! ## Authorities -/

namespace Url

/-- The authority of the URL that a text is read as; empty if there is none. -/
def authorityOf (t : Text) : Text := (splitAuthority (splitScheme (clean t)).2).1

/-- The authority is one that a URL can have. -/
structure IsAuthority (authority : Text) : Prop where
  brackets : '['.toNat ∈ authority ↔ ']'.toNat ∈ authority
  address : '['.toNat ∈ authority → Address.isAddress (bracketed authority) = true
  undisguised : ∀ c ∈ authority, c ∉ disguisedDelimiters

section Authority

variable {t authority : Text} {url : Url}

theorem checkAuthority_eq_ok_iff : checkAuthority authority = .ok () ↔ IsAuthority authority := by
  rw [checkAuthority]
  constructor
  · intro h
    split at h
    case isTrue => cases h
    case isFalse hbrackets =>
      split at h
      case isTrue => cases h
      case isFalse haddress =>
        split at h
        case isTrue => cases h
        case isFalse hdisguised =>
          exact ⟨by simpa using hbrackets, by simpa using haddress, by simpa using hdisguised⟩
  · rintro ⟨hbrackets, haddress, hdisguised⟩
    rw [if_neg (by simpa using hbrackets), if_neg (by simpa using haddress),
      if_neg (by simpa using hdisguised)]

theorem authority_of_ofText (h : ofText t = .ok url) : url.authority = authorityOf t := by
  obtain ⟨_, _, hurl⟩ := Fallible.bind_eq_ok_iff.mp h
  cases hurl
  rfl

/-- A text is read as a URL if and only if its authority is one. -/
theorem exists_ofText_iff : (∃ url, ofText t = .ok url) ↔ IsAuthority (authorityOf t) := by
  rw [← checkAuthority_eq_ok_iff]
  constructor
  · rintro ⟨url, h⟩
    obtain ⟨_, hauthority, _⟩ := Fallible.bind_eq_ok_iff.mp h
    exact hauthority
  · exact fun h => ⟨_, Fallible.bind_eq_ok_iff.mpr ⟨(), h, rfl⟩⟩

end Authority

end Url

namespace Loading

open Fallible (FailsOnly failsOnly_ok failsOnly_error_iff failsOnly_bind_iff)

/-- The URL can be read, and neither its scheme nor its authority is missing. -/
structure IsRequested (url : Text) : Prop where
  readable : Url.IsAuthority (Url.authorityOf url)
  scheme : Url.schemeOf url ≠ []
  authority : Url.authorityOf url ≠ []

/-- The document is named after the URL, and a response to the request stands for no failure and
has its content. -/
structure IsLoaded (request : Text → Reply) (url : Text) (document : Schema.Document) : Prop where
  requested : IsRequested url
  named : documentName url = .ok document.name
  answered : ∃ response t, request url = .answered response ∧ response.isFailure = false ∧
    response.text? = some t ∧ t.HasContent document.content

/-- The URL, or the reply to the request, makes loading fail without a message. -/
inductive Defeats (request : Text → Reply) (url : Text) : Prop where
  | malformed (hauthority : ¬Url.IsAuthority (Url.authorityOf url))
  | unanswered (hrequested : IsRequested url) (hreply : request url = .protocolFailure none)
  | unreadable (hrequested : IsRequested url) {response : Response}
      (hreply : request url = .answered response) (haccepted : response.isFailure = false)
      (htext : ¬response.IsReadable)

/-! ## Replies -/

section Replies

variable {url : Text} {reply : Reply}

theorem replyContent_eq_ok_iff {t : Text} : replyContent url reply = .ok t ↔
    ∃ response, reply = .answered response ∧ response.isFailure = false ∧
      response.text? = some t := by
  cases reply with
  | answered response =>
      rw [replyContent]
      cases hfailure : response.isFailure with
      | true =>
          refine iff_of_false (fun h => nomatch h) ?_
          rintro ⟨other, heq, hother, _⟩
          cases heq
          cases hfailure.symm.trans hother
      | false =>
          have htext : response.text?.elim (.error (LoadError.responseUnreadable url)) Except.ok =
              .ok t ↔ response.text? = some t := by
            cases response.text? with
            | none => exact iff_of_false (fun h => nomatch h) fun h => nomatch h
            | some found => rw [Option.elim_some, Except.ok.injEq, Option.some.injEq]
          rw [if_neg Bool.false_ne_true, htext]
          constructor
          · exact fun h => ⟨response, rfl, hfailure, h⟩
          · rintro ⟨other, heq, _, h⟩
            cases heq
            exact h
  | protocolFailure status? =>
      refine iff_of_false ?_ fun ⟨_, h, _⟩ => nomatch h
      cases status? with
      | none => exact fun h => nomatch h
      | some status => exact fun h => nomatch h
  | timeout => exact iff_of_false (fun h => nomatch h) fun ⟨_, h, _⟩ => nomatch h
  | noConnection => exact iff_of_false (fun h => nomatch h) fun ⟨_, h, _⟩ => nomatch h
  | failure detail => exact iff_of_false (fun h => nomatch h) fun ⟨_, h, _⟩ => nomatch h

/-- Only a failure of the protocol without a response, and a response without a text, have no
message. -/
theorem failsOnly_replyContent_iff : FailsOnly LoadError.IsAnnounced (replyContent url reply) ↔
    reply ≠ .protocolFailure none ∧ ∀ response, reply = .answered response →
      response.isFailure = false → response.IsReadable := by
  cases reply with
  | answered response =>
      simp only [ne_eq, reduceCtorEq, not_false_eq_true, true_and, Reply.answered.injEq,
        forall_eq']
      rw [replyContent, Response.IsReadable]
      cases response.isFailure with
      | true => exact iff_of_true (failsOnly_error_iff.mpr ⟨rfl, rfl⟩) fun h => nomatch h
      | false =>
          cases response.text? with
          | none =>
              refine iff_of_false (fun h => nomatch (failsOnly_error_iff.mp h).1) fun h => ?_
              obtain ⟨_, htext⟩ := h rfl
              cases htext
          | some t => exact iff_of_true (failsOnly_ok t) fun _ => ⟨t, rfl⟩
  | protocolFailure status? =>
      cases status? with
      | none =>
          exact iff_of_false (fun h => nomatch (failsOnly_error_iff.mp h).1) fun h => h.1 rfl
      | some status =>
          refine iff_of_true (failsOnly_error_iff.mpr ⟨rfl, rfl⟩) ⟨?_, ?_⟩
          · exact fun h => nomatch h
          · exact fun _ h => nomatch h
  | timeout | noConnection | failure =>
      refine iff_of_true (failsOnly_error_iff.mpr ⟨rfl, rfl⟩) ⟨?_, ?_⟩
      · exact fun h => nomatch h
      · exact fun _ h => nomatch h

end Replies

/-! ## Loading -/

section Requests

variable {request : Text → Reply} {url : Text}

theorem loadUrl_of_not_isAuthority (h : ¬Url.IsAuthority (Url.authorityOf url)) :
    ∃ error, loadUrl request url = .error (.malformedUrl error) := by
  rw [← Url.exists_ofText_iff] at h
  cases hurl : Url.ofText url with
  | ok parts => exact absurd ⟨parts, hurl⟩ h
  | error error =>
      refine ⟨error, ?_⟩
      rw [loadUrl, hurl]
      rfl

/-- Without scheme or authority a URL is refused, whatever a request for it would come to. -/
theorem loadUrl_of_not_isRequested (hreadable : Url.IsAuthority (Url.authorityOf url))
    (h : ¬IsRequested url) : loadUrl request url = .error (.invalidUrl url) := by
  obtain ⟨parts, hurl⟩ := Url.exists_ofText_iff.mpr hreadable
  have hmissing : (parts.scheme.isEmpty || parts.authority.isEmpty) = true := by
    rw [(Url.ofText_eq_ok hurl).1, Url.authority_of_ofText hurl, Bool.or_eq_true,
      List.isEmpty_iff, List.isEmpty_iff]
    by_contra hpresent
    rw [not_or] at hpresent
    exact h ⟨hreadable, hpresent.1, hpresent.2⟩
  rw [loadUrl, hurl]
  change (if parts.scheme.isEmpty || parts.authority.isEmpty then _ else _) = _
  rw [if_pos hmissing]
  rfl

/-- The content of the reply to a request is that of the document, which is named after the URL. -/
theorem loadUrl_of_isRequested (h : IsRequested url) :
    ∃ name, documentName url = .ok name ∧
      loadUrl request url = (replyContent url (request url) >>= fun t =>
        .ok { name, content := Text.dropByteOrderMark t }) := by
  -- The URL is read once more for the name, which cannot fail then.
  obtain ⟨parts, hurl⟩ := Url.exists_ofText_iff.mpr h.readable
  have hname : documentName url = .ok (Path.ofText parts.path).stem :=
    documentName_eq_ok_iff.mpr ⟨parts, hurl, rfl⟩
  have hpresent : (parts.scheme.isEmpty || parts.authority.isEmpty) = false := by
    rw [(Url.ofText_eq_ok hurl).1, Url.authority_of_ofText hurl]
    simpa using ⟨h.scheme, h.authority⟩
  refine ⟨_, hname, ?_⟩
  rw [loadUrl, hurl, hname]
  change (if parts.scheme.isEmpty || parts.authority.isEmpty then _ else _) = _
  rw [hpresent]
  rfl

/-- A URL is malformed, refused, or requested. -/
theorem loadUrl_cases (request : Text → Reply) (url : Text) :
    (¬Url.IsAuthority (Url.authorityOf url) ∧
        ∃ error, loadUrl request url = .error (.malformedUrl error)) ∨
      (Url.IsAuthority (Url.authorityOf url) ∧ ¬IsRequested url ∧
        loadUrl request url = .error (.invalidUrl url)) ∨
      (IsRequested url ∧ ∃ name, documentName url = .ok name ∧
        loadUrl request url = (replyContent url (request url) >>= fun t =>
          .ok { name, content := Text.dropByteOrderMark t })) := by
  by_cases hreadable : Url.IsAuthority (Url.authorityOf url)
  · by_cases hrequested : IsRequested url
    · exact Or.inr (Or.inr ⟨hrequested, loadUrl_of_isRequested hrequested⟩)
    · exact Or.inr (Or.inl ⟨hreadable, hrequested, loadUrl_of_not_isRequested hreadable hrequested⟩)
  · exact Or.inl ⟨hreadable, loadUrl_of_not_isAuthority hreadable⟩

theorem loadUrl_eq_ok_iff {document : Schema.Document} :
    loadUrl request url = .ok document ↔ IsLoaded request url document := by
  rcases loadUrl_cases request url with
    ⟨hmalformed, error, hload⟩ | ⟨_, hrefused, hload⟩ | ⟨hrequested, name, hname, hload⟩
  · rw [hload]
    exact iff_of_false (fun h => nomatch h) fun h => hmalformed h.requested.readable
  · rw [hload]
    exact iff_of_false (fun h => nomatch h) fun h => hrefused h.requested
  · rw [hload, Fallible.bind_eq_ok_iff]
    constructor
    · rintro ⟨t, hreply, hdocument⟩
      cases hdocument
      obtain ⟨response, hresponse, hfailure, htext⟩ := replyContent_eq_ok_iff.mp hreply
      have hcontent : t.HasContent (Text.dropByteOrderMark t) := Text.hasContent_iff.mpr rfl
      exact ⟨hrequested, hname, response, t, hresponse, hfailure, htext, hcontent⟩
    · rintro ⟨_, hnamed, response, t, hresponse, hfailure, htext, hcontent⟩
      refine ⟨t, replyContent_eq_ok_iff.mpr ⟨response, hresponse, hfailure, htext⟩, ?_⟩
      rw [Except.ok.inj (hname.symm.trans hnamed), ← Text.hasContent_iff.mp hcontent]

theorem failsOnly_loadUrl_iff :
    FailsOnly LoadError.IsAnnounced (loadUrl request url) ↔ ¬Defeats request url := by
  rcases loadUrl_cases request url with
    ⟨hmalformed, error, hload⟩ | ⟨hreadable, hrefused, hload⟩ | ⟨hrequested, name, _, hload⟩
  · rw [hload, failsOnly_error_iff]
    exact iff_of_false (fun h => nomatch h.1) (not_not_intro (.malformed hmalformed))
  · rw [hload, failsOnly_error_iff]
    refine iff_of_true ⟨rfl, rfl⟩ ?_
    rintro (hmalformed | ⟨hrequested, _⟩ | ⟨hrequested, _, _, _⟩)
    · exact hmalformed hreadable
    · exact hrefused hrequested
    · exact hrefused hrequested
  · rw [hload, failsOnly_bind_iff, failsOnly_replyContent_iff,
      and_iff_left fun _ _ => failsOnly_ok _]
    constructor
    · rintro ⟨hreply, hreadable⟩ (hmalformed | ⟨_, hunanswered⟩ | ⟨_, hanswered, haccepted, htext⟩)
      · exact hmalformed hrequested.readable
      · exact hreply hunanswered
      · exact htext (hreadable _ hanswered haccepted)
    · intro hdefeats
      refine ⟨fun hreply => hdefeats (.unanswered hrequested hreply), ?_⟩
      intro response hreply haccepted
      by_contra htext
      exact hdefeats (.unreadable hrequested hreply haccepted htext)

/-- A document is loaded if and only if the URL is requested and a response without failure has its
content, up to a byte order mark.  A failure is announced if and only if neither the URL nor the
reply defeats the loading. -/
theorem loadUrl_answers (request : Text → Reply) (url : Text) :
    (∀ document, loadUrl request url = .ok document ↔ IsLoaded request url document) ∧
      (FailsOnly LoadError.IsAnnounced (loadUrl request url) ↔ ¬Defeats request url) :=
  ⟨fun _ => loadUrl_eq_ok_iff, failsOnly_loadUrl_iff⟩

/-- Only the first of two byte order marks is dropped. -/
example : loadUrl (fun _ => .response 200 "\uFEFF\uFEFFx") "h://a/b.avsc?c" =
    .ok { name := "b", content := "\uFEFFx" } := rfl

/-- A URL with a bracket that is not closed is refused, but without a message. -/
theorem openBracket_refused_without_message :
    ¬FailsOnly LoadError.IsAnnounced (loadUrl (fun _ => .response 200 "{}") "h://[::1") := by
  have hrefused : loadUrl (fun _ => .response 200 "{}") "h://[::1" =
      .error (.malformedUrl .unbalancedBrackets) := rfl
  rw [hrefused, failsOnly_error_iff]
  exact fun h => nomatch h.1

end Requests

end Loading

end RecordSmith
