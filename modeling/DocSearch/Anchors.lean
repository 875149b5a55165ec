/-
Links between documents, from the anchors of stored pages. An anchor is found by its exact text
`<a href="...">`; its address is resolved against that of the page and loses its fragment. Any kind of
addresses will do; unless one is named, they are those of `Url`.
-/
import DocSearch.Address
import DocSearch.DocumentList
import DocSearch.FileTree.Listing
import DocSearch.LinkGraph.Basic
import DocSearch.Text.DecimalDigit
import DocSearch.Text.Utf8
import DocSearch.Url.Basic

namespace DocSearch.Anchors

open Text

/-- How an anchor begins. -/
def opening : List Char := "<a href=\"".toList

/-- The texts between the quotes of the anchors of a page. Looking for the next anchor goes on after
the closing quote; without one, a character further. The fuel is the number of characters. -/
def hrefsFrom (found : List (List Char)) : Nat → List Char → List (List Char)
  | 0, _ => found.reverse
  | _, [] => found.reverse
  | fuel + 1, c :: cs =>
    if opening.isPrefixOf (c :: cs) then
      let body := (c :: cs).drop opening.length
      match body.dropWhile (· != '"') with
      | [] => found.reverse
      | _ :: after => hrefsFrom (body.takeWhile (· != '"') :: found) fuel after
    else hrefsFrom found fuel cs

/-- The addresses of the anchors of a page, in order. -/
def hrefs (html : List Char) : List (List Char) := hrefsFrom [] html.length html

/-- The document of a page: the first number in its name, if it is an identifier. -/
def pageDoc? (name : String) : Option DocId :=
  let fromDigit := name.toList.dropWhile (!isDecimalDigit ·)
  DocId.read? (fromDigit.takeWhile isDecimalDigit)

/-! ## Directories of addresses -/

/-- Addresses with the documents they were entered for. -/
abbrev Directory (U : Type := Url) := List (U × DocId)

section

variable {U : Type}

/-- Resolves an address against that of its page; without one, only an absolute address resolves. -/
def resolve [Address U] (base : Option U) (href : List Char) : Option U :=
  match base with
  | some base => Address.join? base href
  | none => Address.parse? href

/-- The last document that was entered for an address. -/
def Directory.find? [DecidableEq U] (d : Directory U) (u : U) : Option DocId :=
  (List.find? (fun e => e.1 = u) d.reverse).map (·.2)

/-- The last address that was entered for a document. -/
def Directory.urlOf? (d : Directory U) (doc : DocId) : Option U :=
  (List.find? (fun e => e.2 = doc) d.reverse).map (·.1)

/-- The addresses of the listed documents that can be parsed, without fragments. -/
def directoryOf [Address U] (docs : List DocumentEntry) : Directory U :=
  docs.filterMap fun d => (Address.parse? d.url.toList).map fun u => (Address.withoutFragment u, d.doc)

/-! ## The link graph of stored pages -/

variable [DecidableEq U] [Address U]

/-- The documents that the anchors of a page lead to, in order. -/
def linkedDocuments (html : List Char) (base : Option U) (known : Directory U) : List DocId :=
  (hrefs html).filterMap fun href =>
    (resolve base href).bind fun u => known.find? (Address.withoutFragment u)

/-- Adds the links of a page. -/
def addPage (known : Directory U) (g : LinkGraph) (f : ListedFile) : LinkGraph :=
  match pageDoc? f.name with
  | none => g
  | some source =>
    (linkedDocuments (decodeLossy f.bytes) (known.urlOf? source) known).foldl
      (fun g target => g.addLink source target) g

end

/-- The link graph of listed pages, with every listed document as a node. -/
def linkGraph (pages : List ListedFile) (docs : List DocumentEntry) (U : Type := Url)
    [DecidableEq U] [Address U] : LinkGraph :=
  pages.foldl (addPage (directoryOf docs : Directory U))
    (docs.foldl (fun g d => g.addNode d.doc) LinkGraph.empty)

end DocSearch.Anchors
