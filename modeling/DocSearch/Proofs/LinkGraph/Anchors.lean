/-
The link graph of a page directory. A page links to a document if one of its anchors, resolved against
the page's own address, leads to an address that was last listed for the document; the fragments of
all three count for nothing. The graph has the listed documents and the pages with such a link, so it
does not depend on the order in which the pages are listed. All this holds for any reader of addresses
to which the fragment of a page's address makes no difference.
-/
import DocSearch.Proofs.Inserts
import DocSearch.Proofs.LinkGraph.Hrefs
import DocSearch.Proofs.LinkGraph.Pages
import DocSearch.Proofs.Url.Base

namespace DocSearch.Anchors

open Address LinkGraph Text

/-! ## Addresses of documents -/

variable {U : Type} [Address U]

/-- Whether the last entry of a document that has an address at all has this one. -/
def IsAddress (docs : List DocumentEntry) (doc : DocId) (u : U) : Prop :=
  ∃ e, IsLast (fun e => e.doc = doc ∧ ∃ v : U, parse? e.url.toList = some v) docs e ∧
    parse? e.url.toList = some u

/-- Whether the last entry with an address, but for its fragment, is for this document. -/
def IsListedFor (docs : List DocumentEntry) (u : U) (doc : DocId) : Prop :=
  ∃ e, IsLast (fun e => ∃ v : U, parse? e.url.toList = some v ∧ withoutFragment v = u) docs e ∧
    e.doc = doc

/-- Whether an address on the page of a document stands for another: resolved against the address of
the document or, if it has none, read by itself. -/
def Resolves (docs : List DocumentEntry) (doc : DocId) (href : List Char) (u : U) : Prop :=
  (∃ base, IsAddress docs doc base ∧ join? base href = some u) ∨
    (∀ base : U, ¬ IsAddress docs doc base) ∧ parse? href = some u

variable {docs : List DocumentEntry} {doc d r : DocId} {u v : U} {href : List Char}

theorem find?_directoryOf [DecidableEq U] : (directoryOf docs).find? u = some d ↔ IsListedFor docs u d := by
  have hentry : ∀ e : DocumentEntry, (∃ a : U × DocId,
      (∃ v : U, parse? e.url.toList = some v ∧ (withoutFragment v, e.doc) = a) ∧ a.1 = u) ↔
      ∃ v : U, parse? e.url.toList = some v ∧ withoutFragment v = u := fun e => by
    constructor
    · rintro ⟨a, ⟨v, hv, rfl⟩, hu⟩; exact ⟨v, hv, hu⟩
    · rintro ⟨v, hv, hu⟩; exact ⟨_, ⟨v, hv, rfl⟩, hu⟩
  unfold Directory.find? directoryOf IsListedFor
  simp only [Option.map_eq_some_iff, find?_reverse_eq_some_iff, isLast_filterMap, hentry]
  constructor
  · rintro ⟨a, ⟨e, hlast, v, hv, rfl⟩, hd⟩; exact ⟨e, hlast, hd⟩
  · rintro ⟨e, hlast, hd⟩
    obtain ⟨-, -, -, ⟨v, hv, -⟩, -⟩ := id hlast
    exact ⟨_, ⟨e, hlast, v, hv, rfl⟩, hd⟩

theorem urlOf?_directoryOf : (directoryOf docs).urlOf? doc = some u ↔
    ∃ v, IsAddress docs doc v ∧ withoutFragment v = u := by
  have hentry : ∀ e : DocumentEntry, (∃ a : U × DocId,
      (∃ v : U, parse? e.url.toList = some v ∧ (withoutFragment v, e.doc) = a) ∧ a.2 = doc) ↔
      e.doc = doc ∧ ∃ v : U, parse? e.url.toList = some v := fun e => by
    constructor
    · rintro ⟨a, ⟨v, hv, rfl⟩, hd⟩; exact ⟨hd, v, hv⟩
    · rintro ⟨hd, v, hv⟩; exact ⟨_, ⟨v, hv, rfl⟩, hd⟩
  unfold Directory.urlOf? directoryOf IsAddress
  simp only [Option.map_eq_some_iff, find?_reverse_eq_some_iff, isLast_filterMap, hentry]
  constructor
  · rintro ⟨a, ⟨e, hlast, v, hv, rfl⟩, hu⟩; exact ⟨v, ⟨e, hlast, hv⟩, hu⟩
  · rintro ⟨v, ⟨e, hlast, hv⟩, hu⟩; exact ⟨_, ⟨e, hlast, v, hv, rfl⟩, hu⟩

theorem urlOf?_directoryOf_eq_none_iff :
    (directoryOf docs : Directory U).urlOf? doc = none ↔ ∀ base : U, ¬ IsAddress docs doc base := by
  simp only [Option.eq_none_iff_forall_ne_some, ne_eq, urlOf?_directoryOf, not_exists, not_and]
  exact ⟨fun h base hbase => h _ base hbase rfl, fun h _ base hbase => absurd hbase (h base)⟩

/-- An address is listed for a document of the list. -/
theorem IsListedFor.exists_entry (h : IsListedFor docs u d) : ∃ e ∈ docs, e.doc = d := by
  obtain ⟨e, ⟨before, after, rfl, -⟩, hd⟩ := h
  exact ⟨e, List.mem_append_right _ List.mem_cons_self, hd⟩

theorem IsAddress.unique (hu : IsAddress docs doc u) (hv : IsAddress docs doc v) : u = v := by
  obtain ⟨e, he, hu⟩ := hu
  obtain ⟨e', he', hv⟩ := hv
  rw [he.unique he', hv] at hu
  exact (Option.some.inj hu).symm

theorem IsAddress.exists_parse (h : IsAddress docs doc u) : ∃ text, parse? text = some u := by
  obtain ⟨e, -, hu⟩ := h
  exact ⟨_, hu⟩

theorem resolves_of_isAddress {base : U} (h : IsAddress docs doc base) :
    Resolves docs doc href u ↔ join? base href = some u := by
  constructor
  · rintro (⟨base', hbase', hu⟩ | ⟨hno, -⟩)
    · exact h.unique hbase' ▸ hu
    · exact absurd h (hno base)
  · exact fun hu => .inl ⟨base, h, hu⟩

theorem resolves_of_not_isAddress (h : ∀ base : U, ¬ IsAddress docs doc base) :
    Resolves docs doc href u ↔ parse? href = some u := by
  constructor
  · rintro (⟨base, hbase, -⟩ | ⟨-, hu⟩)
    · exact absurd hbase (h base)
    · exact hu
  · exact fun hu => .inr ⟨h, hu⟩

/-! ## Links of a page -/

variable (U) in
/-- Whether an anchor of a page leads from a document to another. -/
def LinksTo (docs : List DocumentEntry) (f : ListedFile) (source target : DocId) : Prop :=
  ∃ href, ∃ u : U, HasHref (decodeLossy f.bytes) href ∧ Resolves docs source href u ∧
    IsListedFor docs (withoutFragment u) target

theorem LinksTo.exists_entry {f : ListedFile} (h : LinksTo U docs f r d) : ∃ e ∈ docs, e.doc = d := by
  obtain ⟨href, u, -, -, hlisted⟩ := h
  exact hlisted.exists_entry

variable [DecidableEq U]

/-- The page's address has lost its fragment when its links are resolved, which makes no difference to
what they lead to. -/
theorem bind_resolve_eq_some_iff (hbase : IgnoresBaseFragment U) :
    (resolve ((directoryOf docs : Directory U).urlOf? doc) href).bind
      (fun u => (directoryOf docs).find? (withoutFragment u)) = some d ↔
    ∃ u : U, Resolves docs doc href u ∧ IsListedFor docs (withoutFragment u) d := by
  cases hurl : (directoryOf docs : Directory U).urlOf? doc with
  | none =>
    simp only [resolve, Option.bind_eq_some_iff, find?_directoryOf,
      resolves_of_not_isAddress (urlOf?_directoryOf_eq_none_iff.1 hurl)]
  | some stripped =>
    obtain ⟨base, haddress, rfl⟩ := urlOf?_directoryOf.1 hurl
    obtain ⟨text, htext⟩ := haddress.exists_parse
    have hbind : ∀ o : Option U, (o.bind fun u => (directoryOf docs).find? (withoutFragment u)) =
        (o.map withoutFragment).bind (directoryOf docs).find? := fun o => by cases o <;> rfl
    simp only [resolve]
    rw [hbind, hbase text href base htext, ← hbind]
    simp only [Option.bind_eq_some_iff, find?_directoryOf, resolves_of_isAddress haddress]

theorem mem_linkedDocuments (hbase : IgnoresBaseFragment U) {f : ListedFile} :
    d ∈ linkedDocuments (decodeLossy f.bytes) ((directoryOf docs : Directory U).urlOf? r)
      (directoryOf docs) ↔ LinksTo U docs f r d := by
  unfold linkedDocuments LinksTo
  simp only [List.mem_filterMap, mem_hrefs, bind_resolve_eq_some_iff hbase, exists_and_left]

/-! ## Pages added to a graph -/

section Pages

variable {g : LinkGraph} {f : ListedFile}

theorem mem_nodes_addTargets (targets : List DocId) (g : LinkGraph) :
    d ∈ (targets.foldl (fun g target => g.addLink r target) g).nodes ↔
      (∃ target ∈ targets, d = r ∨ d = target) ∨ d ∈ g.nodes :=
  foldl_iff_exists (d ∈ nodes ·) (fun target => d = r ∨ d = target)
    (fun _ _ => mem_nodes_addLink.trans or_assoc.symm) targets g

theorem mem_referrersOf_addTargets {source : DocId} (targets : List DocId) (g : LinkGraph) :
    r ∈ (targets.foldl (fun g target => g.addLink source target) g).referrersOf d ↔
      (∃ target ∈ targets, r = source ∧ d = target ∧ source ≠ target) ∨ r ∈ g.referrersOf d :=
  foldl_iff_exists (r ∈ referrersOf · d) (fun target => r = source ∧ d = target ∧ source ≠ target)
    (fun _ _ => mem_referrersOf_addLink) targets g

/-- A page adds itself and what it links to, if it links to anything. -/
theorem mem_nodes_addPage (hbase : IgnoresBaseFragment U) :
    d ∈ (addPage (directoryOf docs : Directory U) g f).nodes ↔
    (∃ source target, IsFirstNumber f.name source ∧ LinksTo U docs f source target ∧
      (d = source ∨ d = target)) ∨ d ∈ g.nodes := by
  unfold addPage
  simp only [← pageDoc?_eq_some_iff]
  cases pageDoc? f.name with
  | none => simp
  | some source =>
    simp only [mem_nodes_addTargets, mem_linkedDocuments hbase, Option.some.injEq, exists_and_left,
      exists_eq_left']

/-- A page adds the links of its anchors, but for those to itself. -/
theorem mem_referrersOf_addPage (hbase : IgnoresBaseFragment U) :
    r ∈ (addPage (directoryOf docs : Directory U) g f).referrersOf d ↔
    (r ≠ d ∧ IsFirstNumber f.name r ∧ LinksTo U docs f r d) ∨ r ∈ g.referrersOf d := by
  unfold addPage
  simp only [← pageDoc?_eq_some_iff]
  cases pageDoc? f.name with
  | none => simp
  | some source =>
    simp only [mem_referrersOf_addTargets, mem_linkedDocuments hbase, Option.some.injEq]
    refine or_congr_left ?_
    constructor
    · rintro ⟨target, hlink, rfl, rfl, hne⟩; exact ⟨hne, rfl, hlink⟩
    · rintro ⟨hne, rfl, hlink⟩; exact ⟨d, hlink, rfl, rfl, hne⟩

end Pages

theorem mem_nodes_addPages (hbase : IgnoresBaseFragment U) (pages : List ListedFile) (g : LinkGraph) :
    d ∈ (pages.foldl (addPage (directoryOf docs : Directory U)) g).nodes ↔
      (∃ f ∈ pages, ∃ source target, IsFirstNumber f.name source ∧ LinksTo U docs f source target ∧
        (d = source ∨ d = target)) ∨ d ∈ g.nodes :=
  foldl_iff_exists (d ∈ nodes ·) (fun f => ∃ source target, IsFirstNumber f.name source ∧
    LinksTo U docs f source target ∧ (d = source ∨ d = target))
    (fun _ _ => mem_nodes_addPage hbase) pages g

theorem mem_referrersOf_addPages (hbase : IgnoresBaseFragment U) (pages : List ListedFile)
    (g : LinkGraph) : r ∈ (pages.foldl (addPage (directoryOf docs : Directory U)) g).referrersOf d ↔
      (∃ f ∈ pages, r ≠ d ∧ IsFirstNumber f.name r ∧ LinksTo U docs f r d) ∨ r ∈ g.referrersOf d :=
  foldl_iff_exists (r ∈ referrersOf · d)
    (fun f => r ≠ d ∧ IsFirstNumber f.name r ∧ LinksTo U docs f r d)
    (fun _ _ => mem_referrersOf_addPage hbase) pages g

theorem referrersOf_foldl_addNode : ∀ (docs : List DocumentEntry) (g : LinkGraph),
    (docs.foldl (fun g d => g.addNode d.doc) g).referrersOf d = g.referrersOf d
  | [], _ => rfl
  | e :: docs, g => by
    rw [List.foldl_cons, referrersOf_foldl_addNode docs, referrersOf_addNode]

/-! ## The graph -/

variable {pages : List ListedFile}

/-- What a page links to is listed, so a page adds no document but its own. -/
theorem mem_nodes_linkGraph (hbase : IgnoresBaseFragment U) :
    d ∈ (linkGraph pages docs U).nodes ↔ (∃ e ∈ docs, e.doc = d) ∨
      ∃ f ∈ pages, IsFirstNumber f.name d ∧ ∃ target, LinksTo U docs f d target := by
  rw [linkGraph, mem_nodes_addPages hbase, mem_nodes_foldl_addNode, or_iff_left notMem_nodes_empty]
  constructor
  · rintro (⟨f, hf, source, target, hname, hlink, rfl | rfl⟩ | hlisted)
    · exact .inr ⟨f, hf, hname, target, hlink⟩
    · exact .inl hlink.exists_entry
    · exact .inl hlisted
  · rintro (hlisted | ⟨f, hf, hname, target, hlink⟩)
    · exact .inr hlisted
    · exact .inl ⟨f, hf, d, target, hname, hlink, .inl rfl⟩

theorem mem_referrersOf_linkGraph (hbase : IgnoresBaseFragment U) :
    r ∈ (linkGraph pages docs U).referrersOf d ↔
      r ≠ d ∧ ∃ f ∈ pages, IsFirstNumber f.name r ∧ LinksTo U docs f r d := by
  rw [linkGraph, mem_referrersOf_addPages hbase, referrersOf_foldl_addNode,
    or_iff_left notMem_referrersOf_empty]
  constructor
  · rintro ⟨f, hf, hne, h⟩; exact ⟨hne, f, hf, h⟩
  · rintro ⟨hne, f, hf, h⟩; exact ⟨f, hf, hne, h⟩

variable (U) in
/-- **The link graph of a page directory.** Whatever order the files of a directory are listed in, and
whatever documents are listed, the graph is the same. A document refers to another exactly if a page
whose name has its number first holds an anchor that leads there: the address in the anchor, resolved
against the last address that the list has for the referrer or read by itself if there is none, is but
for its fragment an address of the list, whose last entry is for the other document. The documents of
the graph are those of the list and those of the pages with an anchor that leads to a listed one.
Nothing is asked of the reader of addresses but that the fragment of a base makes no difference. -/
theorem graph_of_pages (hbase : IgnoresBaseFragment U) (t : FileTree) (dir : Path)
    (docs : List DocumentEntry) (listed : List ListedFile) (h : listed.Perm (t.filesAt dir)) :
    linkGraph listed docs U = linkGraph (t.filesAt dir) docs U ∧
    (∀ d r, r ∈ (linkGraph listed docs U).referrersOf d ↔ r ≠ d ∧ ∃ f ∈ t.filesAt dir,
      IsFirstNumber f.name r ∧ ∃ href, ∃ u : U, HasHref (decodeLossy f.bytes) href ∧
        Resolves docs r href u ∧ IsListedFor docs (withoutFragment u) d) ∧
    ∀ d, d ∈ (linkGraph listed docs U).nodes ↔ (∃ e ∈ docs, e.doc = d) ∨ ∃ f ∈ t.filesAt dir,
      IsFirstNumber f.name d ∧ ∃ target href, ∃ u : U, HasHref (decodeLossy f.bytes) href ∧
        Resolves docs d href u ∧ IsListedFor docs (withoutFragment u) target := by
  have hsame : linkGraph listed docs U = linkGraph (t.filesAt dir) docs U := by
    refine LinkGraph.ext (fun d => ?_) fun d r => ?_
    · simp only [mem_nodes_linkGraph hbase, h.mem_iff]
    · simp only [mem_referrersOf_linkGraph hbase, h.mem_iff]
  rw [hsame]
  exact ⟨rfl, fun d r => mem_referrersOf_linkGraph hbase, fun d => mem_nodes_linkGraph hbase⟩

/-- A tree with two pages of one document and a page of a document that is not listed. -/
def pagesTree : FileTree :=
  (((FileTree.empty.putDirectory ["pages"]).putFile ["pages", "page1.html"]
    "<a href=\"b#top\">b</a><a href=\"a\">a</a>".toUTF8).putFile ["pages", "more1.html"]
      "<a href=\"/c\">c</a>".toUTF8).putFile ["pages", "page7.html"]
        "<a href=\"b\">b</a><a href=\"http://h/a\">a</a>".toUTF8

/-- A list in which a document has two addresses and an address has two documents. -/
def pagesList : List DocumentEntry :=
  [⟨1, "http://g/"⟩, ⟨1, "http://h/a#f"⟩, ⟨2, "http://h/b"⟩, ⟨3, "http://h/c"⟩, ⟨4, "http://h/c"⟩]

theorem graph_of_pages_reversed : IgnoresBaseFragment Url ∧
    (pagesTree.filesAt ⟨"pages"⟩).reverse.Perm (pagesTree.filesAt ⟨"pages"⟩) ∧
    linkGraph (pagesTree.filesAt ⟨"pages"⟩).reverse pagesList =
      linkGraph (pagesTree.filesAt ⟨"pages"⟩) pagesList ∧
    (linkGraph (pagesTree.filesAt ⟨"pages"⟩).reverse pagesList).text = "1:7\n2:1\n3:\n4:1\n7:\n" := by
  have hperm := List.reverse_perm (pagesTree.filesAt ⟨"pages"⟩)
  obtain ⟨hsame, -, -⟩ :=
    graph_of_pages Url Url.ignoresBaseFragment pagesTree ⟨"pages"⟩ pagesList _ hperm
  refine ⟨Url.ignoresBaseFragment, hperm, hsame, ?_⟩
  rw [hsame]
  decide +kernel

end DocSearch.Anchors
