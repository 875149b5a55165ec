/-
Writing the link graph of stored pages and loading it. The document list is put beside the graph as
it stands after the graph was saved, wherever it comes from: then it is the list that was read, or
the text of the graph, which lists no documents. So loading gives the graph that was made, whoever
reads the addresses.
-/
import DocSearch.Proofs.FileTree.Files
import DocSearch.Proofs.LinkGraph.Pages
import DocSearch.Proofs.Snapshot.WeightRun
import DocSearch.Url.Parse

namespace DocSearch

open DocSearch.Path

/-! ## Loading -/

theorem FileTree.loadDocuments_eq_ok_iff {t : FileTree} {p : Path} {docs : List DocumentEntry} :
    t.loadDocuments p = .ok docs ↔
      ∃ text, t.readText p = .ok text ∧ DocumentEntry.listOfText text = docs := by
  unfold loadDocuments
  cases t.readText p with
  | error e => simp [Except.map]
  | ok text => simp [Except.map]

namespace Snapshot

theorem plain_links : Plain "links.txt" := by decide

theorem plain_documents : Plain "index.txt" := by decide

variable {s : Snapshot} {t : FileTree}

/-- A link graph is loaded from its text with the listed documents. -/
theorem loadLinkGraph_of_readText {links list : String} (hlinks : t.readText s.links = .ok links)
    (hlist : t.readText s.documents = .ok list) : s.loadLinkGraph t =
      .ok (some ((DocumentEntry.listOfText list).foldl (fun g d => g.addNode d.doc)
        (LinkGraph.ofText links))) := by
  have hdocs := FileTree.loadDocuments_eq_ok_iff.2 ⟨list, hlist, rfl⟩
  unfold loadLinkGraph
  rw [FileTree.exists?_of_readText hlinks, FileTree.exists?_of_readText hlist, hlinks, hdocs]
  rfl

end Snapshot

namespace Commands

variable {s : Snapshot} {g : LinkGraph} {metadata : Path} {list : String} {t t' : FileTree} {u : Unit}

/-! ## Saving the graph -/

/-- After the graph was saved, it is read from its file, and the document list is what it was unless
it is that file. -/
theorem exists_of_saveLinkGraph (hlist : t.readText metadata = .ok list)
    (hs : (s.saveLinkGraph g).Yields t u t') : ∃ place, s.Rooted place t' ∧
      t'.readText s.links = .ok g.text ∧
        ∃ list', t'.readText metadata = .ok list' ∧ (list' = list ∨ list' = g.text) := by
  obtain ⟨t₀, place, hmade, hbase, hroot, hsave⟩ :=
    FileTree.exists_of_yields_saveText_join Snapshot.plain_links hs
  have hmore := FileTree.moreDirectories_makeChain s.root.stem.ancestors t
  rw [← FileTree.createDirectories, hmade] at hmore
  have hlinks := FileTree.readText_saveText hsave
  obtain ⟨hfree, rfl⟩ := (FileTree.yields_saveText_join Snapshot.plain_links hbase hroot).1 hsave
  -- the list may be the very file that the graph went to
  exact ⟨place, Snapshot.Rooted.putFile ⟨hbase, hroot⟩ hfree, hlinks,
    FileTree.readText_putFile hfree (hmore.readText hlist)⟩

/-! ## Copying the document list -/

/-- Copying a text into a snapshot leaves the text there, and the other files as they are. -/
theorem readText_copyFile {place : List String} (h : s.Rooted place t)
    (hlist : t.readText metadata = .ok list) {links : String} (hlinks : t.readText s.links = .ok links)
    (hcopy : (copyFile metadata s.documents).Yields t u t') :
    t'.readText s.documents = .ok list ∧ t'.readText s.links = .ok links := by
  have hwrite : t.write s.documents list.toUTF8 = .ok t' := by
    have hstep := Change.yields_attempt.1 hcopy
    rw [FileTree.readText_eq_ok_iff.1 hlist] at hstep
    exact Change.except_mapError_eq_ok_iff.1 hstep
  refine ⟨FileTree.readText_eq_ok_iff.2 (FileTree.read_write hwrite), ?_⟩
  obtain ⟨q, hq, hfree, rfl⟩ := FileTree.write_eq_ok_iff.1 hwrite
  obtain ⟨r, hr, -, rfl⟩ := (FileTree.resolve_join_eq_ok_iff Snapshot.plain_documents).1 hq
  have hplace : r = place := Except.ok.inj (hr.symm.trans h.base)
  subst hplace
  have hafter : s.Rooted r (t.putFile _ list.toUTF8) := h.putFile hfree
  rw [Snapshot.links, FileTree.readText_join_eq_ok_iff Snapshot.plain_links h.base h.root] at hlinks
  rw [Snapshot.links, FileTree.readText_join_eq_ok_iff Snapshot.plain_links hafter.base hafter.root,
    FileTree.node?_putFile (by simp), if_neg (by simp), hlinks]

/-- The document list need not be copied if the snapshot has it already. -/
theorem readText_documents_of_canonical? (hlist : t.readText metadata = .ok list)
    (hsame : t.canonical? metadata = t.canonical? s.documents) : t.readText s.documents = .ok list := by
  obtain ⟨q, hq, hn⟩ := FileTree.readText_eq_ok_iff_node?.1 hlist
  have hcanonical : t.canonical? metadata = some q := by
    unfold FileTree.canonical?
    rw [hq]
    simp [hn]
  rw [hcanonical] at hsame
  unfold FileTree.canonical? at hsame
  split at hsame
  · rename_i q' hq'
    obtain ⟨-, hplace⟩ := Option.ite_none_right_eq_some.1 hsame.symm
    cases hplace
    exact FileTree.readText_eq_ok_iff_node?.2 ⟨q, hq', hn⟩
  · cases hsame

/-! ## The command -/

variable {U : Type} [DecidableEq U] [Address U]

/-- The steps of a run: saving the graph of the pages, and a copy unless the list is there already. -/
theorem exists_of_writeLinks {pages metadata output : Path}
    (h : (writeLinks pages metadata output U).Yields t () t') : ∃ list t₁,
      t.readText metadata = .ok list ∧
      (Snapshot.saveLinkGraph ⟨output⟩
        (Anchors.linkGraph (t.filesAt pages) (DocumentEntry.listOfText list) U)).Yields t () t₁ ∧
      ((t₁.canonical? metadata = t₁.canonical? (Snapshot.documents ⟨output⟩) ∧ t' = t₁) ∨
        (copyFile metadata (Snapshot.documents ⟨output⟩)).Yields t₁ () t') := by
  obtain ⟨docs, s, hquery, hrest⟩ := Change.yields_bind.1 h
  obtain ⟨hdocs, hs⟩ := Change.yields_query.1 hquery
  -- reading the list and building the graph change nothing
  obtain ⟨list, hlist, rfl⟩ := FileTree.loadDocuments_eq_ok_iff.1
    (Change.except_mapError_eq_ok_iff.1 (Change.except_mapError_eq_ok_iff.1 hdocs))
  subst hs
  obtain ⟨g, s, hquery, hrest⟩ := Change.yields_bind.1 hrest
  obtain ⟨⟨⟩, hs⟩ := Change.yields_query.1 hquery
  subst hs
  obtain ⟨⟨⟩, t₁, hsave, hrest⟩ := Change.yields_bind.1 hrest
  obtain ⟨same, s, hquery, hcopy⟩ := Change.yields_bind.1 hrest
  obtain ⟨⟨⟩, hs⟩ := Change.yields_query.1 hquery
  subst hs
  refine ⟨list, _, hlist, Change.yields_mapError.1 hsave, ?_⟩
  split at hcopy
  · rename_i hsame
    exact .inl ⟨of_decide_eq_true hsame, (Change.yields_pure.1 hcopy).2.symm⟩
  · exact .inr (Change.yields_mapError.1 hcopy)

variable (U) in
/-- When the link graph of stored pages has been written, it is loaded as it was made: with the same
documents and the same referrers, wherever the document list is kept and however addresses are read
and joined. -/
theorem loadLinkGraph_writeLinks {pages metadata output : Path} {t t' : FileTree}
    (h : (writeLinks pages metadata output U).Yields t () t') :
    ∃ docs, t.loadDocuments metadata = .ok docs ∧ Snapshot.loadLinkGraph ⟨output⟩ t' =
      .ok (some (Anchors.linkGraph (t.filesAt pages) docs U)) := by
  obtain ⟨list, t₁, hlist, hsave, hcopy⟩ := exists_of_writeLinks h
  refine ⟨_, FileTree.loadDocuments_eq_ok_iff.2 ⟨list, hlist, rfl⟩, ?_⟩
  have hcovers : Anchors.Covers _ (Anchors.linkGraph _ _ U) :=
    Anchors.covers_linkGraph (t.filesAt pages) (DocumentEntry.listOfText list)
  generalize Anchors.linkGraph (t.filesAt pages) (DocumentEntry.listOfText list) U = g
    at hsave hcovers ⊢
  obtain ⟨place, hrooted, hlinks, list', hlist', hor⟩ := exists_of_saveLinkGraph hlist hsave
  have hread : t'.readText (Snapshot.documents ⟨output⟩) = .ok list' ∧
      t'.readText (Snapshot.links ⟨output⟩) = .ok g.text := by
    rcases hcopy with ⟨hsame, rfl⟩ | hcopy
    · exact ⟨readText_documents_of_canonical? hlist' hsame, hlinks⟩
    · exact readText_copyFile hrooted hlist' hlinks hcopy
  rw [Snapshot.loadLinkGraph_of_readText hread.2 hread.1, hcovers.built.wellFormed.ofText_text]
  -- entering the documents of the copied list once more changes nothing
  rw [LinkGraph.foldl_addNode_of_mem fun d hd => ?_]
  rcases hor with rfl | rfl
  · exact hcovers.mem_nodes d hd
  · rw [LinkGraph.listOfText_text] at hd
    cases hd

/-- A tree with a page that links to another document, and with the list of both where the output
goes. -/
def pageTree : FileTree :=
  (((FileTree.empty.putDirectory ["pages"]).putFile ["pages", "page1.html"]
    "<a href=\"b#top\">b</a><a href=\"a\">a</a>".toUTF8).putDirectory ["out"]).putFile
      ["out", "index.txt"] "1 http://h/a\n2 http://h/b\n3 ?\n".toUTF8

theorem loadLinkGraph_writeLinks_pages : ∃ docs t',
    pageTree.loadDocuments ⟨"out/index.txt"⟩ = .ok docs ∧
      (Anchors.linkGraph (pageTree.filesAt ⟨"pages"⟩) docs).text = "1:\n2:1\n3:\n" ∧
      (writeLinks ⟨"pages"⟩ ⟨"out/index.txt"⟩ ⟨"out"⟩).Yields pageTree () t' ∧
      Snapshot.loadLinkGraph ⟨⟨"out"⟩⟩ t' =
        .ok (some (Anchors.linkGraph (pageTree.filesAt ⟨"pages"⟩) docs)) := by
  have hyields : (writeLinks ⟨"pages"⟩ ⟨"out/index.txt"⟩ ⟨"out"⟩).Yields pageTree () _ :=
    Change.yields_of_isOk (by decide +kernel)
  obtain ⟨docs, hdocs, htext⟩ := exists_eq_ok_of_any (r := pageTree.loadDocuments ⟨"out/index.txt"⟩)
    (P := fun docs => decide
      ((Anchors.linkGraph (pageTree.filesAt ⟨"pages"⟩) docs).text = "1:\n2:1\n3:\n")) (by decide +kernel)
  obtain ⟨docs', hdocs', hload⟩ := loadLinkGraph_writeLinks Url hyields
  cases hdocs.symm.trans hdocs'
  exact ⟨docs, _, hdocs, of_decide_eq_true htext, hyields, hload⟩

end Commands

end DocSearch
