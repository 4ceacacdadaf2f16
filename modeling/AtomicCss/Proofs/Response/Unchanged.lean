import AtomicCss.Proofs.Charset.Exact
import AtomicCss.Proofs.Pass.Untouched
import AtomicCss.Proofs.Response.Collected
import AtomicCss.Proofs.Response.Headers

/-! # Bodies that stay as they are

A page without styles is given back as it is, and in UTF-8, Latin-1 and ASCII what was read is
written with the same bytes. So the body of such a response, also of one that gives no charset, is
sent byte for byte, in one piece, and the start gives the number of its bytes. -/

namespace AtomicCss.Response

/-! ## The charset of a body -/

/-- A body is read as a page in the charset with this name. -/
structure IsReadAs (charsetName : Text) (body : Bytes) (charset : Charset) (page : Text) : Prop where
  not_null : '\x00' ∉ charsetName
  ofName : Charset.Coding.ofName? charsetName = some (.charset charset)
  decode : charset.decode body = some page

/-- A body is read in UTF-8 where the content type has no parameter that gives a charset. -/
theorem IsReadAs.of_absent {headers : Headers}
    (habsent : ∀ parameter ∈
      (Text.splitOn ';' ((Headers.get? Headers.contentType headers).getD [])).drop 1,
        Headers.charsetOfParameter? parameter = none)
    {body : Bytes} {page : Text} (hdecode : Charset.utf8.decode body = some page) :
    IsReadAs headers.charsetName body .utf8 page := by
  have hname : headers.charsetName = "utf-8".toList := by
    rw [Headers.charsetName, List.findSome?_eq_none_iff.2 habsent]
    rfl
  rw [hname]
  exact ⟨by decide, by decide +kernel, hdecode⟩

namespace Exchange

variable {start : Message} {charset : Charset} {body : Bytes} {page : Text}

/-- The body of an HTML response in UTF-8, Latin-1 or ASCII whose page has no styles is sent as it
is, in whatever parts it comes: in one piece after the start, which gives the number of its bytes. -/
theorem sent_unchanged (settings : Settings) (hstart : start.StartsHtml)
    {messages : List Message} (hmessages : Carries messages body)
    (hreads : IsReadAs start.headerList.charsetName body charset page)
    (hcharset : charset ∈ [.utf8, .latin1, .ascii]) (hfree : Pass.IsStyleFree page) :
    ∃ early final, run settings httpScope empty (start :: messages) = early ++ [final] ∧
      (∀ sending ∈ early, sending.sent = [] ∧ sending.outcome = .ok ()) ∧
      final.sent = [start.withLength body, .wholeBody body] ∧ final.outcome = .ok () ∧
      (start.withLength body).headerList.filter (fun header => header.1 = Headers.contentLength) =
        [(Headers.contentLength, Text.ofNat body.length)] := by
  have hexact : charset.IsExact := by
    simp only [List.mem_cons, List.not_mem_nil, or_false] at hcharset
    rcases hcharset with rfl | rfl | rfl
    · exact Charset.utf8_isExact
    · exact Charset.latin1_isExact
    · exact Charset.ascii_isExact
  have hrender : (Pass.render settings page .empty).outcome = .ok page := by
    rw [Pass.render_of_isStyleFree hfree]
    rfl
  obtain ⟨early, parts, hrun, hearly, rfl⟩ := run_of_startsHtml settings hstart hmessages
  have hrestyles : Restyles settings start.headerList.charsetName parts.flatten parts.flatten :=
    ⟨hreads.not_null, charset, page, page, hreads.ofName, hreads.decode, hrender,
      hexact _ _ hreads.decode⟩
  obtain ⟨hsent, houtcome⟩ := release_of_restyles hrestyles
  exact ⟨early, _, hrun, hearly, hsent, houtcome, Headers.filter_set_self _ _ _⟩

/-- A start of an HTML response that gives no charset, and a wrong length. -/
def bareStart : Message :=
  ⟨Message.startKind, some [(Headers.contentLength, ['1']),
    (Headers.contentType, "text/html; level=1".toList)], none, none, []⟩

/-- A document without styles that is not as it would be written, cut inside its letter. -/
def unstyledParts : List Message :=
  [⟨Message.bodyKind, none, some (Charset.encodeUtf8 "<HTML><p>".toList ++ [0xC3]),
      some (.bool true), []⟩,
    ⟨Message.bodyKind, none, some (0xA9 :: Charset.encodeUtf8 "</HTML>\n".toList), none, []⟩]

/-- The document as a text. -/
def unstyledPage : Text := "<HTML><p>é</HTML>\n".toList

theorem unstyledPage_isStyleFree : Pass.IsStyleFree unstyledPage := by
  have hread : Markup.Document.read unstyledPage =
      .ok ⟨Markup.Doctype.standard, .element "html".toList [] [.element "body".toList []
        [.element "p".toList [] [.text ['é']]]]⟩ := by
    decide +kernel
  exact .document rfl hread (by decide)

/-- The document is sent as it was, with its own length. -/
theorem unstyledParts_sent_unchanged :
    let body := Charset.encodeUtf8 unstyledPage
    bareStart.StartsHtml ∧ Carries unstyledParts body ∧
      IsReadAs bareStart.headerList.charsetName body .utf8 unstyledPage ∧
      Pass.IsStyleFree unstyledPage ∧
      (run .standard httpScope empty (bareStart :: unstyledParts)).flatMap Sending.sent =
        [bareStart.withLength body, .wholeBody body] ∧
      (bareStart.withLength body).headerList =
        [(Headers.contentLength, "19".toList),
          (Headers.contentType, "text/html; level=1".toList)] := by
  intro body
  have hstart : bareStart.StartsHtml := Message.startsHtml_iff.2 (by decide +kernel)
  have hbody : body = (unstyledParts.map Message.bodyPart).flatten := by decide +kernel
  have hcarries : Carries unstyledParts body := by
    rw [hbody]
    exact .more rfl rfl (.last rfl rfl)
  have hreads : IsReadAs bareStart.headerList.charsetName body .utf8 unstyledPage :=
    .of_absent (by decide +kernel) (by decide +kernel)
  obtain ⟨early, final, hrun, hearly, hfinal, -, -⟩ :=
    sent_unchanged .standard hstart hcarries hreads (by decide) unstyledPage_isStyleFree
  refine ⟨hstart, hcarries, hreads, unstyledPage_isStyleFree, ?_, by decide +kernel⟩
  rw [hrun, flatMap_sent_of_early hearly, hfinal]

end Exchange
end AtomicCss.Response
