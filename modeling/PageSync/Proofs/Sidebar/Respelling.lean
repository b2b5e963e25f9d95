import Mathlib.Data.List.Forall2
import PageSync.Proofs.Url.Settled
import PageSync.Sidebar

/-!
Links in other spellings. Which link leads to the current page depends on the paths of the links
only, and not on the slashes at their ends: a link to a site may as well be written as the path that
it leads to (`active?_respelled`).
-/

namespace PageSync.Sidebar

open Text

/-! ### The two searches -/

/-- The loop over the links searches for two kinds of them at once. -/
theorem search_eq (current : List Char) (base : Url) (i : Nat) (above : Option Nat)
    (hrefs : List String) : search current base i above hrefs =
      ((hrefs.findIdx? fun href => (linkPath? base href).any (· == current)).map (· + i)).or
        (above.or ((hrefs.findIdx? fun href =>
          (linkPath? base href).any (leadsAbove current)).map (· + i))) := by
  -- the loop carries the place it is at and the first link above so far
  induction hrefs generalizing i above with
  | nil => simp [search]
  | cons href hrefs ih =>
      have hshift : ∀ found : Option Nat,
          (found.map (· + 1)).map (· + i) = found.map (· + (i + 1)) := by
        intro found
        rw [Option.map_map]
        congr 1
        funext j
        exact Nat.add_right_comm j 1 i
      rw [search, List.findIdx?_cons, List.findIdx?_cons]
      cases linkPath? base href with
      | none =>
          simp only [ih, Option.any_none, Bool.false_eq_true, if_false]
          rw [hshift, hshift]
      | some link =>
          simp only [Option.any_some]
          by_cases hcurrent : link = current
          · simp [hcurrent]
          · have hne : (link == current) = false := beq_false_of_ne hcurrent
            simp only [if_neg hcurrent, ih, hne, Bool.false_eq_true, if_false, hshift]
            cases above with
            | some place => rfl
            | none =>
                by_cases hleads : leadsAbove current link = true
                · simp [hleads]
                · simp [hleads, hshift]

/-- The first link that leads to the current path, or else the first that leads above it. -/
theorem active?_eq (path : String) (hrefs : List String) (base : Url) :
    active? path hrefs base =
      (hrefs.findIdx? fun href =>
        (linkPath? base href).any (· == trimmedPath path.toList)).or
      (hrefs.findIdx? fun href =>
        (linkPath? base href).any (leadsAbove (trimmedPath path.toList))) := by
  rw [active?, search_eq, Option.none_or]
  simp only [Nat.add_zero, Option.map_id']

/-- Only the paths of the links count. -/
theorem active?_congr {base : Url} {hrefs others : List String}
    (h : hrefs.map (linkPath? base) = others.map (linkPath? base)) (path : String) :
    active? path hrefs base = active? path others base := by
  have hfind : ∀ p : Option (List Char) → Bool,
      (hrefs.findIdx? fun href => p (linkPath? base href)) =
        others.findIdx? fun href => p (linkPath? base href) := by
    intro p
    have hmapped : ∀ links : List String, (links.findIdx? fun href => p (linkPath? base href)) =
        (links.map (linkPath? base)).findIdx? p := fun links => (List.findIdx?_map ..).symm
    rw [hmapped, hmapped, h]
  rw [active?_eq, active?_eq, hfind fun link => link.any (· == trimmedPath path.toList),
    hfind fun link => link.any (leadsAbove (trimmedPath path.toList))]

/-! ### Slashes at the end -/

theorem trimmedPath_append_slashes (path : List Char) (n : Nat) :
    trimmedPath (path ++ List.replicate n '/') = trimmedPath path := by
  have htrim : trimEnd (· == '/') (path ++ List.replicate n '/') = trimEnd (· == '/') path := by
    rw [trimEnd, List.reverse_append, List.reverse_replicate,
      List.dropWhile_append_of_pos fun c hc => by simp [List.eq_of_mem_replicate hc], trimEnd]
  rw [trimmedPath, htrim, trimmedPath]

theorem not_prefix_append_slashes {path : List Char} (hroot : path.head? = some '/')
    (hne : path ≠ ['/']) (h : ¬['/', '/'] <+: path) (n : Nat) :
    ¬['/', '/'] <+: path ++ List.replicate n '/' := by
  match path with
  | [] => contradiction
  | [c] =>
      obtain rfl := Option.some.inj hroot
      contradiction
  | c :: d :: rest =>
      rw [List.cons_append, List.cons_append, List.cons_prefix_cons, List.cons_prefix_cons]
      rw [List.cons_prefix_cons, List.cons_prefix_cons] at h
      exact fun hmore => h ⟨hmore.1, hmore.2.1, List.nil_prefix⟩

/-- Slashes after a path are empty segments at its end. -/
theorem text_append_slashes (parts : List Url.Segment) (n : Nat) :
    (Url.Path.segments parts).text ++ List.replicate n '/' =
      (Url.Path.segments (parts ++ List.replicate n [])).text := by
  rw [Url.Path.text, Url.Path.text, List.flatMap_append]
  congr 1
  induction n with
  | zero => rfl
  | succ n ih => rw [List.replicate_succ, List.replicate_succ, List.flatMap_cons, ← ih]; rfl

/-! ### Respelled links -/

def siteSchemes : List String := ["http", "https", "ws", "wss", "ftp"]

theorem kind_of_mem_siteSchemes {url : Url} (h : String.ofList url.scheme ∈ siteSchemes) :
    url.kind = .special := by
  simp only [siteSchemes, List.mem_cons, List.not_mem_nil, or_false] at h
  rw [Url.kind, Url.kindOf]
  rcases h with h | h | h | h | h
  all_goals
    rw [h]
    rfl

/-- The same link, or the path that it leads to with any slashes after it. -/
inductive Respelled (base : Url) : String → String → Prop where
  | same (href : String) : Respelled base href href
  | path {href : String} {url : Url} (n : Nat) (hurl : base.join? href = some url)
      (hscheme : String.ofList url.scheme ∈ siteSchemes) (hroot : url.path.text ≠ ['/'])
      (hslashes : ¬['/', '/'] <+: url.path.text) :
      Respelled base href (String.ofList (url.path.text ++ List.replicate n '/'))

theorem linkPath?_eq (base : Url) (href : String) : linkPath? base href =
    ((base.join? href).map (·.path)).map fun path => trimmedPath path.text := by
  rw [linkPath?, Option.map_map]
  rfl

section

variable {base : Url} (hbase : base.Read) (hscheme : String.ofList base.scheme ∈ siteSchemes)

include hbase hscheme

/-- What a link to a site leads to, written as a reference of its own, with slashes after it. -/
theorem join?_path {href : String} {url : Url} (hurl : base.join? href = some url)
    (hsite : String.ofList url.scheme ∈ siteSchemes) {n : Nat}
    (hstart : ¬['/', '/'] <+: url.path.text ++ List.replicate n '/') :
    ∃ path, (base.join? (String.ofList (url.path.text ++ List.replicate n '/'))).map (·.path) =
      some path ∧ path.text = url.path.text ++ List.replicate n '/' := by
  have hkind := kind_of_mem_siteSchemes hscheme
  have hsettled := (hbase.join hurl).settlesPath (kind_of_mem_siteSchemes hsite)
  cases hpath : url.path with
  | unstructured text =>
      rw [hpath] at hsettled
      cases hsettled
  | segments parts =>
      rw [hpath] at hsettled hstart
      cases hsettled with
      | segments hne hparts =>
          -- slashes at the end are empty segments, which stay as they are
          have hmore : (Url.Path.segments (parts ++ List.replicate n [])).Settled := by
            refine .segments (by simp [hne]) ?_
            rw [List.forall_mem_append]
            refine ⟨hparts, fun s hs => ?_⟩
            rw [List.eq_of_mem_replicate hs]
            exact Url.settled_nil
          rw [text_append_slashes] at hstart ⊢
          exact ⟨_, Url.join?_text hkind (hbase.settlesPath hkind) hmore hstart, rfl⟩

theorem Respelled.linkPath?_eq {href respelled : String} (h : Respelled base href respelled) :
    linkPath? base respelled = linkPath? base href := by
  cases h with
  | same => rfl
  | @path url n hurl hsite hroot hslashes =>
      have hstart : ¬['/', '/'] <+: url.path.text ++ List.replicate n '/' := by
        have hsettled := (hbase.join hurl).settlesPath (kind_of_mem_siteSchemes hsite)
        exact not_prefix_append_slashes hsettled.plainPath.root hroot hslashes n
      obtain ⟨path, hpath, htext⟩ := join?_path hbase hscheme hurl hsite hstart
      rw [Sidebar.linkPath?_eq, hpath, Sidebar.linkPath?_eq, hurl, Option.map_some, Option.map_some,
        Option.map_some, htext, trimmedPath_append_slashes]

/-- The link that is marked depends neither on the way in which links to sites are written nor on
slashes at the end of the current path: any of the links may be written as the path that it leads
to. This path is plain, and leads to itself. -/
theorem active?_respelled {hrefs respelled : List String}
    (h : List.Forall₂ (Respelled base) hrefs respelled) (path : String) (n : Nat) :
    active? (path ++ String.ofList (List.replicate n '/')) respelled base =
      active? path hrefs base ∧
    ∀ href url, base.join? href = some url → String.ofList url.scheme ∈ siteSchemes →
      Url.PlainPath url.path.text ∧
      (¬['/', '/'] <+: url.path.text →
        (base.join? (String.ofList url.path.text)).map (·.path.text) = some url.path.text) := by
  constructor
  · have hlinks : respelled.map (linkPath? base) = hrefs.map (linkPath? base) := by
      induction h with
      | nil => rfl
      | cons head _ ih =>
          rw [List.map_cons, List.map_cons, head.linkPath?_eq hbase hscheme, ih]
    rw [active?_congr hlinks, active?, String.toList_append, String.toList_ofList,
      trimmedPath_append_slashes, active?]
  · intro href url hurl hsite
    refine ⟨((hbase.join hurl).settlesPath (kind_of_mem_siteSchemes hsite)).plainPath, ?_⟩
    intro hstart
    have hnone : url.path.text ++ List.replicate 0 '/' = url.path.text := List.append_nil _
    obtain ⟨again, hagain, htext⟩ := join?_path hbase hscheme hurl hsite (hnone ▸ hstart)
    rw [List.replicate_zero, List.append_nil] at hagain htext
    have hmap := congrArg (Option.map Url.Path.text) hagain
    rw [Option.map_map, Option.map_some, htext] at hmap
    exact hmap

end

def homePage : Url where
  scheme := "https".toList
  authority := some { host := some (.name "ops.example.com".toList) }
  path := .segments [[]]
  query := none
  fragment := none

/-- A link to the site with a backslash, dot segments, a tab character and a query. -/
def windingLink : String := " ..\\jobs/.%2E/caf\té/%2e/new?tab=a"

def windingUrl : Url :=
  { homePage with
    path := .segments ["caf%C3%A9".toList, "new".toList]
    query := some "tab=a".toList }

theorem active?_respelled_windingLink :
    homePage.Read ∧
    List.Forall₂ (Respelled homePage) ["mailto:ops", windingLink, "/jobs"]
      ["mailto:ops", "/caf%C3%A9/new//", "/jobs"] ∧
    active? "/caf%C3%A9/new/7//" ["mailto:ops", "/caf%C3%A9/new//", "/jobs"] homePage =
      active? "/caf%C3%A9/new/7" ["mailto:ops", windingLink, "/jobs"] homePage ∧
    Url.PlainPath windingUrl.path.text ∧
    (homePage.join? "/caf%C3%A9/new").map (·.path.text) = some "/caf%C3%A9/new".toList := by
  have hbase : homePage.Read :=
    @Url.Read.absolute "https://ops.example.com" homePage (by decide +kernel)
  have hwinding : homePage.join? windingLink = some windingUrl := by decide +kernel
  have hlink : Respelled homePage windingLink "/caf%C3%A9/new//" :=
    .path 2 hwinding (by decide) (by decide) (by decide)
  have hlinks : List.Forall₂ (Respelled homePage) ["mailto:ops", windingLink, "/jobs"]
      ["mailto:ops", "/caf%C3%A9/new//", "/jobs"] :=
    .cons (.same _) (.cons hlink (.cons (.same _) .nil))
  obtain ⟨hactive, hpaths⟩ :=
    active?_respelled hbase (by decide) hlinks "/caf%C3%A9/new/7" 2
  obtain ⟨hplain, hagain⟩ := hpaths windingLink windingUrl hwinding (by decide)
  exact ⟨hbase, hlinks, hactive, hplain, hagain (by decide)⟩

end PageSync.Sidebar
