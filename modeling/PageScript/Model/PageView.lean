import PageScript.Text.Lines

/-!
# What the language model sees of a page

Two expressions that the page evaluates. One marks the elements that can be operated with an
identifier each and lists them; the other gives the visible text. `elementSelector` addresses an
element of the list by its identifier.
-/

namespace PageScript.Model

/-- The expression that marks and lists the elements that can be operated. -/
def snapshotScript : String :=
  Text.ofLines
    ["(() => \x7b",
     "  const selector = 'a[href], button, input, select, textarea, summary, [role], [contenteditable=\"true\"], [onclick], [tabindex]';",
     "  const visible = (el) => \x7b",
     "    const style = window.getComputedStyle(el);",
     "    if (style.visibility === 'hidden' || style.display === 'none') return false;",
     "    const r = el.getBoundingClientRect();",
     "    return r.width > 0 && r.height > 0;",
     "  \x7d;",
     "  const clip = (s) => (s || '').replace(/\\s+/g, ' ').trim().slice(0, 80);",
     "  document.querySelectorAll('[data-step-eid]').forEach((el) => el.removeAttribute('data-step-eid'));",
     "  const out = [];",
     "  let n = 0;",
     "  for (const el of document.querySelectorAll(selector)) \x7b",
     "    if (out.length >= 300) break;",
     "    if (!visible(el)) continue;",
     "    const id = 'e' + (n++);",
     "    el.setAttribute('data-step-eid', id);",
     "    const item = \x7b id, tag: el.tagName.toLowerCase() \x7d;",
     "    const role = el.getAttribute('role'); if (role) item.role = role;",
     "    const type = el.getAttribute('type'); if (type) item.type = type;",
     "    const label = el.getAttribute('aria-label') || (el.labels && el.labels[0] && el.labels[0].textContent);",
     "    if (label) item.label = clip(label);",
     "    const placeholder = el.getAttribute('placeholder'); if (placeholder) item.placeholder = clip(placeholder);",
     "    const name = el.getAttribute('name'); if (name) item.name = name;",
     "    const text = clip(el.innerText || el.value);",
     "    if (text) item.text = text;",
     "    out.push(item);",
     "  \x7d",
     "  return \x7b url: location.href, title: document.title, elements: out \x7d;",
     "\x7d)()"]

/-- The expression that gives the visible text. -/
def pageTextScript : String :=
  "(() => (\x7b url: location.href, title: document.title, "
    ++ "text: document.body ? document.body.innerText : '' \x7d))()"

/-- The CSS selector of an element of the list; quotes cannot be part of an identifier. -/
def elementSelector (id : String) : String :=
  "[data-step-eid=\"" ++ String.ofList (id.toList.filter (· != '"')) ++ "\"]"

end PageScript.Model
