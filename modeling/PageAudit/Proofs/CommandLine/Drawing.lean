import PageAudit.CommandLine.Run

/-!
# What dry runs show

The pages of a registry are drawn one after the other into a table by route. So every page of the registry
can be opened, and what its route shows is what is expected of the last page there. This is what is
expected of the page itself as long as pages that share a route expect the same.
-/

namespace PageAudit

/-! ## Registering pages -/

namespace Capture.Drawn

/-- The drawn pages with the lines that are shown at a route, which replace earlier ones. -/
def register (d : Drawn) (route : String) (lines : List String) : Drawn :=
  { d with pages := d.pages ++ [(route, lines)] }

variable {d : Drawn} {route : String} {lines : List String}

theorem linesOf?_register (d : Drawn) (route other : String) (lines : List String) :
    (d.register route lines).linesOf? other =
      if other = route then some lines else d.linesOf? other := by
  rw [linesOf?, register, List.reverse_append, List.reverse_singleton, List.singleton_append,
    List.lookup_cons]
  by_cases h : other = route
  · rw [if_pos h, beq_iff_eq.mpr h]
  · rw [if_neg h, beq_false_of_ne h]
    rfl

/-- A route that shows something can be opened. -/
theorem navigate_of_linesOf? (h : d.linesOf? route = some lines) (w : Scene Surface) :
    d.navigate route w = (.ok (), ⟨some route, w.host⟩) := by
  rw [navigate, h]
  simp

theorem linesOf_of_linesOf? (h : d.linesOf? route = some lines) : d.linesOf route = lines := by
  rw [linesOf, h, Option.getD_some]

end Capture.Drawn

namespace CommandLine

open Capture (Drawn Scene)

/-- The last page at a route. -/
def LastAt (pages : List (String × Page)) (route : String) (shown : Page) : Prop :=
  ∃ before name after, pages = before ++ (name, shown) :: after ∧ shown.route = route ∧
    ∀ later ∈ after, later.2.route ≠ route

variable {pages : List (String × Page)} {entry : String × Page} {route : String} {shown : Page}

theorem LastAt.cons (h : LastAt pages route shown) : LastAt (entry :: pages) route shown := by
  obtain ⟨before, name, after, rfl, hroute, hlater⟩ := h
  exact ⟨entry :: before, name, after, rfl, hroute, hlater⟩

theorem LastAt.exists_mem (h : LastAt pages route shown) :
    ∃ name, (name, shown) ∈ pages ∧ shown.route = route := by
  obtain ⟨before, name, after, rfl, hroute, -⟩ := h
  exact ⟨name, List.mem_append_right _ (List.mem_cons_self ..), hroute⟩

def registerPage (d : Drawn) (entry : String × Page) : Drawn :=
  d.register entry.2.route (expectedLines entry.2)

/-- Pages are registered on top of others: a route of theirs shows the last of them, and all other routes
show what they have shown. -/
theorem linesOf?_registerPages (pages : List (String × Page)) (d : Drawn) (route : String) :
    (∃ shown, LastAt pages route shown ∧
      (pages.foldl registerPage d).linesOf? route = some (expectedLines shown)) ∨
    (∀ entry ∈ pages, entry.2.route ≠ route) ∧
      (pages.foldl registerPage d).linesOf? route = d.linesOf? route := by
  induction pages generalizing d with
  | nil => exact Or.inr ⟨List.forall_mem_nil _, rfl⟩
  | cons entry rest ih =>
      rcases ih (registerPage d entry) with ⟨shown, hlast, hlines⟩ | ⟨hnone, hlines⟩
      · exact Or.inl ⟨shown, hlast.cons, hlines⟩
      · rw [registerPage, Drawn.linesOf?_register] at hlines
        by_cases hroute : entry.2.route = route
        · rw [if_pos hroute.symm] at hlines
          exact Or.inl ⟨entry.2, ⟨[], entry.1, rest, rfl, hroute, hnone⟩, hlines⟩
        · rw [if_neg (Ne.symm hroute)] at hlines
          exact Or.inr ⟨List.forall_mem_cons.mpr ⟨hroute, hnone⟩, hlines⟩

theorem foldl_registerPage (pages : List (String × Page)) (d : Drawn) :
    pages.foldl registerPage d =
      { d with pages := d.pages ++ pages.map fun entry => (entry.2.route, expectedLines entry.2) } := by
  induction pages generalizing d with
  | nil => simp
  | cons entry rest ih => simp [ih, registerPage, Drawn.register]

/-- What a registry shows is its pages registered one after the other. -/
theorem drawnPages_eq (registry : Registry) (directory : String) (v : Viewport) :
    drawnPages registry directory v = registry.pages.foldl registerPage ⟨directory, v, []⟩ := by
  rw [foldl_registerPage]
  rfl

variable (registry : Registry) (directory : String) (v : Viewport)

theorem exists_lastAt (h : entry ∈ registry.pages) :
    ∃ shown, LastAt registry.pages entry.2.route shown ∧
      (drawnPages registry directory v).linesOf? entry.2.route = some (expectedLines shown) := by
  rw [drawnPages_eq]
  refine (linesOf?_registerPages _ _ _).resolve_right ?_
  rintro ⟨hnone, -⟩
  exact hnone entry h rfl

/-- Every page of a registry can be opened and shows what is expected of the last page at its route. All
pages show what is expected of themselves exactly if pages at one route expect the same. -/
theorem drawnPages_show :
    (∀ entry ∈ registry.pages,
      (∀ w, (drawnPages registry directory v).navigate entry.2.route w =
        (.ok (), ⟨some entry.2.route, w.host⟩)) ∧
      ∃ shown, LastAt registry.pages entry.2.route shown ∧ ∀ extent,
        (drawnPages registry directory v).render extent entry.2.route =
          PageView.render v extent entry.2.route (expectedLines shown)) ∧
    ((∀ entry ∈ registry.pages,
        (drawnPages registry directory v).linesOf entry.2.route = expectedLines entry.2) ↔
      ∀ one ∈ registry.pages, ∀ other ∈ registry.pages, one.2.route = other.2.route →
        expectedLines one.2 = expectedLines other.2) := by
  refine ⟨fun entry hentry => ?_, fun h one hone other hother hroute => ?_,
    fun h entry hentry => ?_⟩
  · obtain ⟨shown, hlast, hlines⟩ := exists_lastAt registry directory v hentry
    refine ⟨Drawn.navigate_of_linesOf? hlines, shown, hlast, fun extent => ?_⟩
    rw [Drawn.render, Drawn.linesOf_of_linesOf? hlines]
    rfl
  · rw [← h one hone, hroute, h other hother]
  · obtain ⟨shown, hlast, hlines⟩ := exists_lastAt registry directory v hentry
    obtain ⟨name, hmem, hroute⟩ := hlast.exists_mem
    rw [Drawn.linesOf_of_linesOf? hlines]
    exact h (name, shown) hmem entry hentry hroute

def orders : Page := ((Page.bare "Orders" "/orders").withTitle "Orders").withTexts ["3 open", "1 paid"]

def cart : Page := (Page.bare "Cart" "/cart").withTitle "Cart"

theorem orders_shown_in_shop : let shop : Registry := ⟨[⟨"shop", [orders, cart]⟩]⟩
    ("shop", orders) ∈ shop.pages ∧
      (∀ w, ((drawnPages shop "shots" .mobile).navigate "/orders" w).1 = .ok ()) ∧
      (drawnPages shop "shots" .mobile).linesOf "/orders" = ["Orders", "3 open", "1 paid"] := by
  intro shop
  have hmem : ("shop", orders) ∈ shop.pages := List.mem_cons_self
  obtain ⟨hpages, hown⟩ := drawnPages_show shop "shots" .mobile
  refine ⟨hmem, fun w => congrArg Prod.fst ((hpages _ hmem).1 w), hown.mpr ?_ _ hmem⟩
  decide

/-- Of two pages at one route the earlier one is not shown. -/
theorem orders_hidden_at_shared_route :
    let shop : Registry := ⟨[⟨"shop", [orders, { cart with route := "/orders" }]⟩]⟩
    ("shop", orders) ∈ shop.pages ∧
      (drawnPages shop "shots" .mobile).linesOf orders.route ≠ expectedLines orders :=
  ⟨List.mem_cons_self, by decide⟩

end CommandLine

end PageAudit
