import LandingPage.Action
import LandingPage.Html.ClassList

namespace LandingPage

def mobileMenuId : String := "mobile-menu"

def navLink (classes : ClassList) (onNavigate : Option Action) (link : NavLink) : Html Action :=
  .element .a [⟨.href, link.target⟩] classes.text? onNavigate (.text link.label)

def navLinkList (links : List NavLink) (classes : ClassList) (onNavigate : Option Action) :
    Html Action :=
  .join (links.map (navLink classes onNavigate))

def logo (path classes : String) : Html Action :=
  .node .img
    [⟨.draggable, "false"⟩, ⟨.src, path⟩, ⟨.alt, Brand.logoText⟩] (some classes) []

def mobileMenu (onNavigate : Action) : Html Action :=
  .node .div [⟨.id, mobileMenuId⟩] (some "border-t border-gray-100 md:hidden") [
    .styled .div "space-y-1 px-4 pb-3 pt-2" [
      navLinkList navLinks
        (.ofTexts ["hover:text-brand", "block", "rounded-md", "px-3", "py-2", "text-base",
          "font-medium", "text-gray-600", "hover:bg-gray-50"])
        (some onNavigate),
      .styled .div "border-t border-gray-100 pt-4" [
        .styled .button "hover:text-brand block w-full rounded-md px-3 py-2 text-left text-base font-medium text-gray-600 hover:bg-gray-50" [
          .text "Sign In"],
        .styled .button "bg-brand hover:bg-brand/90 mt-2 block w-full rounded-lg px-3 py-2 text-base font-medium text-white transition-colors" [
          .text "Get Started"]]]]

def menuTrigger (state : Disclosure) (onClick : Action) : Html Action :=
  .element .button
    [⟨.ariaLabel, state.triggerLabel⟩, ⟨.ariaExpanded, state.ariaExpanded⟩,
      ⟨.ariaControls, mobileMenuId⟩]
    (some "focus:ring-brand inline-flex items-center justify-center rounded-md p-2 text-gray-600 hover:bg-gray-100 hover:text-gray-900 focus:outline-none focus:ring-2 md:hidden")
    (some onClick)
    (styledGlyph state.icon "h-6 w-6")

def header (menu : Disclosure) : Html Action :=
  .styled .header "sticky top-0 z-50 border-b border-gray-100 bg-white" [
    .styled .div "mx-auto max-w-7xl px-4 sm:px-6 lg:px-8" [
      .styled .div "flex h-16 items-center justify-between" [
        .styled .div "flex items-center" [
          .node .a [⟨.href, "/#"⟩] none [logo Brand.logoPath "h-6 sm:h-8"]],
        .styled .nav "hidden space-x-4 md:flex lg:space-x-8" [
          navLinkList navLinks
            (.ofTexts ["hover:text-brand", "text-sm", "text-gray-600", "transition-colors",
              "lg:text-base"])
            none],
        .styled .div "hidden items-center space-x-4 md:flex" [
          .styled .button "hover:text-brand text-sm text-gray-600 transition-colors lg:text-base" [
            .text "Sign In"],
          .styled .button "bg-brand hover:bg-brand/90 rounded-lg px-3 py-1.5 text-sm text-white transition-colors lg:px-4 lg:py-2 lg:text-base" [
            .text "Get Started"]],
        menuTrigger menu (.toggleMenu menu)]],
    if menu.isOpen then mobileMenu (.closeMenu menu) else .empty]

def footerLink (link : NavLink) : Html Action :=
  .plain .li [
    .node .a [⟨.href, link.target⟩] (some "transition-colors hover:text-white") [
      .text link.label]]

def footerColumn (column : FooterColumn) : Html Action :=
  .plain .div [
    .styled .h3 "mb-3 text-sm font-semibold sm:mb-4 sm:text-base" [.text column.title],
    .styled .ul "space-y-2 text-xs text-gray-400 sm:text-sm" (column.links.map footerLink)]

/-- A document in a list of documents. A later render finds it again by its key, which is no part of
its text. -/
structure Keyed where
  key : Nat
  document : Html Action

def keyedFooterColumn (position : Nat) (column : FooterColumn) : Keyed :=
  ⟨position, footerColumn column⟩

def footer : Html Action :=
  .styled .footer "bg-brand py-8 text-white sm:py-12" [
    .styled .div "mx-auto max-w-7xl px-4 sm:px-6 lg:px-8" [
      .styled .div "grid gap-8 sm:grid-cols-2 md:grid-cols-4" (
        .styled .div "sm:col-span-2 md:col-span-1" [
          .styled .div "mb-4 flex items-center space-x-2" [logo Brand.whiteLogoPath "h-6 sm:h-8"],
          .styled .p "text-sm text-gray-400 sm:text-base" [.text Brand.tagline]] ::
        footerColumns.zipIdx.map fun (column, position) =>
          (keyedFooterColumn position column).document),
      .styled .div "mt-8 border-t border-gray-800 pt-6 text-center text-xs text-gray-400 sm:pt-8 sm:text-sm" [
        .plain .p [.text Brand.copyright]]]]

end LandingPage
