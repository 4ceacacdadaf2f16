import AtomicCss.Proofs.Charset.Exact
import AtomicCss.Proofs.Pass.Characters
import AtomicCss.Proofs.Response.Collected

/-! # Bodies that can be written

A restyled page is written in the charset in which it was read. UTF-8 has all characters. Latin-1
and ASCII have those of the page, but not always those that reading the page brings in: a character
reference is replaced by its character, which the charset may lack. Then nothing of the response is
sent. -/

namespace AtomicCss

namespace Repertoire

/-- All characters. -/
def all : Repertoire := ⟨fun _ => True, fun _ _ => trivial⟩

/-- The characters below a code point. -/
def below (bound : Nat) (h : 0x80 ≤ bound) : Repertoire :=
  ⟨fun c => c.toNat < bound, fun _ hc => hc.trans_le h⟩

theorem spells_all (text : Text) : all.Spells text := fun _ _ => trivial

theorem spellsSettings_standard {repertoire : Repertoire} : repertoire.SpellsSettings .standard where
  classStem := spells_toList rfl (by decide)
  styleId := spells_toList rfl (by decide)

theorem spellsBrought_all (settings : Settings) (page : Text) : all.SpellsBrought settings page :=
  ⟨spells_all _, fun _ _ _ _ => spells_all _⟩

end Repertoire

namespace Charset

/-- A charset writes every text in a repertoire, and the texts that it reads are in it. -/
structure Covers (charset : Charset) (repertoire : Repertoire) : Prop where
  spells_of_decode : ∀ bytes text, charset.decode bytes = some text → repertoire.Spells text
  encode_of_spells : ∀ text, repertoire.Spells text → ∃ bytes, charset.encode text = some bytes

/-- The characters of UTF-8, Latin-1 and ASCII. -/
def repertoire? : Charset → Option Repertoire
  | utf8 => some .all
  | latin1 => some (.below 0x100 (by decide))
  | ascii => some (.below 0x80 le_rfl)
  | _ => none

theorem utf8_covers : utf8.Covers .all where
  spells_of_decode _ text _ := Repertoire.spells_all text
  encode_of_spells text _ := ⟨encodeUtf8 text, rfl⟩

theorem latin1_covers : latin1.Covers (.below 0x100 (by decide)) where
  spells_of_decode bytes text hdecode := by
    obtain rfl := Option.some.inj hdecode
    exact toNat_lt_of_mem_map_ofNat fun byte _ => byte.toNat_lt
  encode_of_spells text hspells := by
    have hall : text.all (·.toNat < 0x100) :=
      List.all_eq_true.2 fun c hc => decide_eq_true (hspells c hc)
    exact ⟨_, if_pos hall⟩

theorem ascii_covers : ascii.Covers (.below 0x80 le_rfl) where
  spells_of_decode bytes text hdecode := by
    simp only [decode] at hdecode
    split_ifs at hdecode with hall
    obtain rfl := Option.some.inj hdecode
    exact toNat_lt_of_mem_map_ofNat (toNat_lt_of_all_lt hall)
  encode_of_spells text hspells := by
    have hall : text.all (·.toNat < 0x80) :=
      List.all_eq_true.2 fun c hc => decide_eq_true (hspells c hc)
    exact ⟨_, if_pos hall⟩

theorem covers_of_repertoire? {charset : Charset} {repertoire : Repertoire}
    (h : charset.repertoire? = some repertoire) : charset.Covers repertoire := by
  cases charset with
  | utf8 => exact Option.some.inj h ▸ utf8_covers
  | latin1 => exact Option.some.inj h ▸ latin1_covers
  | ascii => exact Option.some.inj h ▸ ascii_covers
  | _ => cases h

end Charset

namespace Response

/-- A body is read as a page in the charset with this name, and the page is rendered as a text. -/
structure Renders (settings : Settings) (charsetName : Text) (body : Bytes) (charset : Charset)
    (page rendered : Text) : Prop where
  not_null : '\x00' ∉ charsetName
  ofName : Charset.Coding.ofName? charsetName = some (.charset charset)
  decode : charset.decode body = some page
  render : (Pass.render settings page .empty).outcome = .ok rendered

namespace Exchange

variable {settings : Settings} {start : Message} {charset : Charset} {body : Bytes}
  {page rendered : Text}

/-- Whether a page that is rendered gives bytes depends on nothing but writing it. -/
theorem outcome_renderBytes_of_renders {charsetName : Text}
    (h : Renders settings charsetName body charset page rendered) :
    (renderBytes settings charsetName body).outcome =
      (charset.encode rendered).elim (.error .notEncodable) .ok := by
  simp only [renderBytes, h.not_null, if_false, h.ofName, h.decode, renderBody, h.render]
  cases charset.encode rendered with
  | none => rfl
  | some bytes => rfl

/-- A page that is rendered but cannot be written is lost, and the start with it. -/
theorem lost_of_encode_eq_none (hstart : start.StartsHtml) {messages : List Message}
    (hmessages : Carries messages body)
    (hrenders : Renders settings start.headerList.charsetName body charset page rendered)
    (hencode : charset.encode rendered = none) :
    ∃ early final, run settings httpScope empty (start :: messages) = early ++ [final] ∧
      (∀ sending ∈ early, sending.sent = [] ∧ sending.outcome = .ok ()) ∧
      final.sent = [] ∧ final.outcome = .error .notEncodable := by
  obtain ⟨early, parts, hrun, hearly, rfl⟩ := run_of_startsHtml settings hstart hmessages
  have hfault : (renderBytes settings start.kept.headerList.charsetName parts.flatten).outcome =
      .error .notEncodable := by
    have houtcome := outcome_renderBytes_of_renders hrenders
    rw [hencode] at houtcome
    exact houtcome
  refine ⟨early, _, hrun, hearly, ?_, ?_⟩
  · rw [release, hfault]
  · rw [release, hfault]

/-- A page in UTF-8, Latin-1 or ASCII that can be rendered is written in its charset, and the start
and the whole body are sent, if the charset has the characters that reading brings in. In UTF-8
nothing has to be asked for. -/
theorem sent_of_renders (hstart : start.StartsHtml) {messages : List Message}
    (hmessages : Carries messages body)
    (hrenders : Renders .standard start.headerList.charsetName body charset page rendered)
    {repertoire : Repertoire} (hrepertoire : charset.repertoire? = some repertoire)
    (hbrought : charset ≠ .utf8 → repertoire.SpellsBrought .standard page) :
    ∃ bytes early final, charset.encode rendered = some bytes ∧
      run .standard httpScope empty (start :: messages) = early ++ [final] ∧
      (∀ sending ∈ early, sending.sent = [] ∧ sending.outcome = .ok ()) ∧
      final.sent = [start.withLength bytes, .wholeBody bytes] ∧ final.outcome = .ok () := by
  have hcovers := Charset.covers_of_repertoire? hrepertoire
  have hall : repertoire.SpellsBrought .standard page := by
    by_cases hutf8 : charset = .utf8
    · subst hutf8
      obtain rfl := Option.some.inj hrepertoire
      exact Repertoire.spellsBrought_all .standard page
    · exact hbrought hutf8
  have hpage : repertoire.Spells page := hcovers.spells_of_decode body page hrenders.decode
  have hrendered := hpage.render hall Repertoire.spellsSettings_standard hrenders.render
  obtain ⟨bytes, hbytes⟩ := hcovers.encode_of_spells rendered hrendered
  obtain ⟨early, parts, hrun, hearly, rfl⟩ := run_of_startsHtml .standard hstart hmessages
  have hrestyles : Restyles .standard start.headerList.charsetName parts.flatten bytes := by
    rw [← outcome_renderBytes_eq_ok_iff, outcome_renderBytes_of_renders hrenders, hbytes]
    rfl
  obtain ⟨hsent, houtcome⟩ := release_of_restyles hrestyles
  exact ⟨bytes, early, _, hbytes, hrun, hearly, hsent, houtcome⟩

/-- A start of an HTML response in Latin-1. -/
def latinStart : Message :=
  ⟨Message.startKind, some [(Headers.contentType, "text/html; charset=iso-8859-1".toList)], none,
    none, [("status".toList, .integer 200)]⟩

/-- A styled page with a reference. -/
def referencePage (reference : String) : Text :=
  ("<p style=\"color: red\">" ++ reference ++ "</p>").toList

/-- The only part of a body with that page. -/
def referencePart (reference : String) : Message :=
  ⟨Message.bodyKind, none, some (Charset.encodeUtf8 (referencePage reference)), none, []⟩

/-- The page after it is restyled, with the character that the reference stands for. -/
def resolvedPage (character : String) : Text :=
  ("<style id=\"headwind\">.hw_CTY41 \x7b color: red \x7d</style>" ++
    "<p class=\"hw_CTY41\">" ++ character ++ "</p>").toList

theorem ofName?_latinStart :
    Charset.Coding.ofName? latinStart.headerList.charsetName = some (.charset .latin1) := by
  decide +kernel

theorem renders_letter :
    Renders .standard latinStart.headerList.charsetName (referencePart "&#233;").bodyPart .latin1
      (referencePage "&#233;") (resolvedPage "é") where
  not_null := by decide +kernel
  ofName := ofName?_latinStart
  decode := by decide +kernel
  render := by decide +kernel

/-- The letter that the reference brings in is in Latin-1, so the page is sent with it. -/
theorem letter_sent :
    latinStart.StartsHtml ∧ Carries [referencePart "&#233;"] (referencePart "&#233;").bodyPart ∧
      Renders .standard latinStart.headerList.charsetName (referencePart "&#233;").bodyPart .latin1
        (referencePage "&#233;") (resolvedPage "é") ∧
      Charset.latin1.repertoire? = some (.below 0x100 (by decide)) ∧
      (Repertoire.below 0x100 (by decide)).SpellsBrought .standard (referencePage "&#233;") ∧
      ∃ bytes early final, Charset.latin1.encode (resolvedPage "é") = some bytes ∧
        run .standard httpScope empty [latinStart, referencePart "&#233;"] = early ++ [final] ∧
        (∀ sending ∈ early, sending.sent = [] ∧ sending.outcome = .ok ()) ∧
        final.sent = [latinStart.withLength bytes, .wholeBody bytes] ∧ final.outcome = .ok () := by
  have hstart : latinStart.StartsHtml := Message.startsHtml_iff.2 (by decide +kernel)
  have hcarries : Carries [referencePart "&#233;"] (referencePart "&#233;").bodyPart :=
    .last rfl rfl
  have hbrings : Markup.broughtIn (referencePage "&#233;") = ['é'] := by decide +kernel
  have hcollect : (Pass.collectPage .standard (referencePage "&#233;") .empty).outcome =
      .ok "<p class=\"hw_CTY41\">é</p>".toList := by decide +kernel
  have hbrought :
      (Repertoire.below 0x100 (by decide)).SpellsBrought .standard (referencePage "&#233;") := by
    constructor
    · rw [hbrings, Repertoire.spells_cons]
      exact ⟨(by decide : 'é'.toNat < 0x100), Repertoire.spells_nil⟩
    · intro _ collected hcollected hdocument
      rw [hcollect] at hcollected
      rw [← Except.ok.inj hcollected] at hdocument
      exact absurd hdocument (by decide +kernel)
  exact ⟨hstart, hcarries, renders_letter, rfl, hbrought,
    sent_of_renders hstart hcarries renders_letter rfl fun _ => hbrought⟩

/-- The sign that the reference brings in is not in Latin-1. So the page, which can be read and
rendered, is not sent. -/
theorem sign_lost :
    latinStart.StartsHtml ∧ Carries [referencePart "&#8364;"] (referencePart "&#8364;").bodyPart ∧
      Renders .standard latinStart.headerList.charsetName (referencePart "&#8364;").bodyPart .latin1
        (referencePage "&#8364;") (resolvedPage "€") ∧
      Charset.latin1.encode (resolvedPage "€") = none ∧
      ∃ early final,
        run .standard httpScope empty [latinStart, referencePart "&#8364;"] = early ++ [final] ∧
        (∀ sending ∈ early, sending.sent = [] ∧ sending.outcome = .ok ()) ∧
        final.sent = [] ∧ final.outcome = .error .notEncodable := by
  have hstart : latinStart.StartsHtml := Message.startsHtml_iff.2 (by decide +kernel)
  have hcarries : Carries [referencePart "&#8364;"] (referencePart "&#8364;").bodyPart :=
    .last rfl rfl
  have hrenders : Renders .standard latinStart.headerList.charsetName
      (referencePart "&#8364;").bodyPart .latin1 (referencePage "&#8364;") (resolvedPage "€") :=
    ⟨by decide +kernel, ofName?_latinStart, by decide +kernel, by decide +kernel⟩
  have hencode : Charset.latin1.encode (resolvedPage "€") = none := by decide +kernel
  exact ⟨hstart, hcarries, hrenders, hencode,
    lost_of_encode_eq_none hstart hcarries hrenders hencode⟩

end Exchange
end Response
end AtomicCss
