/-
What following links needs to know about addresses. Which texts are addresses and what a link stands
for on a page is up to those who read addresses; the laws of link graphs hold for any reader.
-/
namespace DocSearch

/-- Addresses that can be read, alone or on a page, and that may have fragments. -/
class Address (U : Type) where
  /-- Reads an address that stands for itself. -/
  parse? : List Char → Option U
  /-- Reads an address on the page with the given address. -/
  join? : U → List Char → Option U
  /-- The address without its fragment. -/
  withoutFragment : U → U

/-- Whether the fragment of a page's address makes no difference to what a link on the page leads to,
the fragment of the link apart. -/
def Address.IgnoresBaseFragment (U : Type) [Address U] : Prop :=
  ∀ (text href : List Char) (base : U), parse? text = some base →
    (join? (withoutFragment base) href).map withoutFragment = (join? base href).map withoutFragment

end DocSearch
