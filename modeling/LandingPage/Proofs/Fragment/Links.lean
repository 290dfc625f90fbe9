import LandingPage.Proofs.Content.Anchors
import LandingPage.Proofs.Html.Transcript
import LandingPage.View.Navigation

/-!
# Links read back from a text

The links of a text are its `a` elements, each with its decoded target and its decoded text. A list of
links is read back from the text of a link list and of a footer column just as it was given, so the
check of the list tells what a reader of the text would find.
-/
namespace LandingPage

namespace Html

/-- The links among tags with the runs after them. An `a` without a target makes the reading fail. -/
def linksIn : List (TagText × List Char) → Option (List NavLink)
  | [] => some []
  | (read, after) :: tags =>
    if read.name = ['a'] then
      let inside := after ++ (tags.takeWhile fun tag => tag.1.name ≠ ['/', 'a']).flatMap Prod.snd
      (read.attrs.lookup ['h', 'r', 'e', 'f']).bind fun target =>
        (linksIn tags).map fun links =>
          ⟨String.ofList (decode inside), String.ofList (decode target)⟩ :: links
    else linksIn tags

def readLinks (text : String) : Option (List NavLink) :=
  (transcript? text).bind fun t => linksIn t.tags

variable {α : Type}

/-- The text of the document is read as these links, whatever stands behind it. -/
def Shows (h : Html α) (links : List NavLink) : Prop :=
  ∀ t, linksIn (h.transcriptBefore t).tags = (linksIn t.tags).map (links ++ ·)

private theorem readLinks_of_shows {h : Html α} {links : List NavLink} (hshows : h.Shows links) :
    readLinks h.render = some links := by
  rw [readLinks, transcript?_render, Option.bind_some, transcript, hshows]
  simp [Transcript.nil, linksIn]

private theorem linksIn_tag {read : TagText} (hname : read.name ≠ ['a']) (t : Transcript) :
    linksIn (t.tag read).tags = linksIn t.tags := by
  rw [Transcript.tag, linksIn, if_neg hname]

private theorem linksIn_stop (tag : Tag) (t : Transcript) :
    linksIn (t.tag (Markup.stop tag).text).tags = linksIn t.tags :=
  linksIn_tag (by simp [Markup.text]) t

namespace Shows

theorem empty : (Html.empty : Html α).Shows [] := fun t => by
  simp [transcriptBefore]

theorem text (content : String) : (Html.text content : Html α).Shows [] := fun t => by
  simp [transcriptBefore, Transcript.run]

theorem append {h k : Html α} {links links' : List NavLink} (hh : h.Shows links)
    (hk : k.Shows links') : (Html.append h k).Shows (links ++ links') := fun t => by
  rw [transcriptBefore, hh, hk, Option.map_map]
  simp [Function.comp_def]

private theorem join_singleton {h : Html α} {links : List NavLink} (hh : h.Shows links) :
    (Html.join [h]).Shows links := by
  simpa [Html.join] using hh.append empty

theorem join_cons {h : Html α} {hs : List (Html α)} {links : List NavLink} (hh : h.Shows [])
    (hhs : (Html.join hs).Shows links) : (Html.join (h :: hs)).Shows links :=
  hh.append hhs

private theorem join_map {draw : NavLink → Html α} (hdraw : ∀ link, (draw link).Shows [link])
    (links : List NavLink) : (Html.join (links.map draw)).Shows links := by
  induction links with
  | nil => exact empty
  | cons link links ih => exact (hdraw link).append ih

theorem node {tag : Tag} (htag : tag ≠ .a) {attrs : List Attr} {classes : Option String}
    {hs : List (Html α)} {links : List NavLink} (hhs : (Html.join hs).Shows links) :
    (Html.node tag attrs classes hs).Shows links := by
  intro t
  have hname : (Markup.start tag attrs classes).text.name ≠ ['a'] := by
    cases tag <;> simp_all [Markup.text, Tag.name]
  rw [Html.node, transcriptBefore, linksIn_tag hname, hhs]
  cases tag.isVoid with
  | true => rfl
  | false => exact congrArg _ (linksIn_stop tag t)

theorem link (link : NavLink) (classes : Option String) (onClick : Option α) :
    (Html.element .a [⟨.href, link.target⟩] classes onClick (Html.text link.label)).Shows
      [link] := by
  intro t
  let start := (Markup.start .a [⟨.href, link.target⟩] classes).text
  let rest := t.tag (Markup.stop .a).text
  have hname : start.name = ['a'] := rfl
  have htarget : start.attrs.lookup ['h', 'r', 'e', 'f'] =
      some (escapeValue link.target.toList) := by
    simp [start, Markup.text, Markup.attrTexts, AttrName.name]
  have hinside : rest.tags.takeWhile (fun tag => tag.1.name ≠ ['/', 'a']) = [] := by
    simp [rest, Transcript.tag, Markup.text, Tag.name]
  change linksIn ((start, escapeText link.label.toList ++ []) :: rest.tags) = _
  rw [linksIn, if_pos hname, htarget, hinside, linksIn_stop]
  simp only [List.append_nil, List.flatMap_nil, Option.bind_some, decode_escapeText,
    decode_escapeValue, String.ofList_toList]
  rfl

end Shows

end Html

open Html

theorem shows_navLinkList (links : List NavLink) (classes : ClassList)
    (onNavigate : Option Action) : (navLinkList links classes onNavigate).Shows links :=
  .join_map (fun link => .link link _ _) links

theorem shows_footerColumn (column : FooterColumn) : (footerColumn column).Shows column.links := by
  have hlink (link : NavLink) : (footerLink link).Shows [link] :=
    .node (by decide) (.join_singleton (.link link _ (none : Option Action)))
  have htitle (classes : String) :
      (Html.styled .h3 classes [.text column.title] : Html Action).Shows [] :=
    .node (by decide) (.join_singleton (.text _))
  exact .node (by decide) (.join_cons (htitle _) (.join_singleton
    (.node (by decide) (.join_map hlink column.links))))

/-- The check of the links says what a reader of the text finds: that all its links pass, or which one
is the first that does not. -/
def CheckFits (sections : List String) (links : List NavLink) (text : String) : Prop :=
  ∃ read, readLinks text = some read ∧
    (checkAnchors sections links = .ok () ↔ ∀ link ∈ read, link.Reaches sections) ∧
    ∀ label anchor, checkAnchors sections links = .error (.missingAnchor label anchor) ↔
      ∃ before link after, read = before ++ link :: after ∧
        (∀ earlier ∈ before, earlier.Reaches sections) ∧
        ¬ link.Reaches sections ∧ link.label = label ∧ link.target = "#" ++ anchor

private theorem checkFits_of_shows {sections : List String} (hsections : sections.Nodup)
    {links : List NavLink} {h : Html Action} (hshows : h.Shows links) :
    CheckFits sections links h.render :=
  ⟨links, readLinks_of_shows hshows, checkAnchors_eq_ok_iff hsections links, fun _ _ =>
    checkAnchors_eq_missingAnchor_iff hsections links⟩

/-- With distinct sections the check of a list of links agrees with the links that are read back from
the text of the list, whatever its class names, and from the text of a footer column with them. -/
theorem checkAnchors_fits_rendered {sections : List String} (hsections : sections.Nodup)
    (links : List NavLink) :
    (∀ classes onNavigate,
      CheckFits sections links (navLinkList links classes onNavigate).render) ∧
    ∀ title, CheckFits sections links (footerColumn ⟨title, links⟩).render :=
  ⟨fun classes onNavigate => checkFits_of_shows hsections (shows_navLinkList links classes onNavigate),
    fun title => checkFits_of_shows hsections (shows_footerColumn ⟨title, links⟩)⟩

/-- The second of three links, whose label and target hold markup, is the first that does not pass. -/
theorem checkAnchors_fits_imitated_markup :
    let sections := ["features", "\"><a href=\"#"]
    let links : List NavLink :=
      [⟨"Top", "#"⟩, ⟨"</a><a href=\"#features\">", "#\"&gt;"⟩, ⟨"Missing", "#missing"⟩]
    sections.Nodup ∧
    ((∀ classes onNavigate,
      CheckFits sections links (navLinkList links classes onNavigate).render) ∧
    ∀ title, CheckFits sections links (footerColumn ⟨title, links⟩).render) ∧
    checkAnchors sections links =
      .error (.missingAnchor "</a><a href=\"#features\">" "\"&gt;") := by
  intro sections links
  have hsections : sections.Nodup := by decide
  exact ⟨hsections, checkAnchors_fits_rendered hsections links, rfl⟩

end LandingPage
