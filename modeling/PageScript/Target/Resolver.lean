import PageScript.Locator
import PageScript.Json.Printer
import PageScript.Text.Lines

/-!
# Scripts that find an element

The program that runs inside the page to find an element: a fixed head that knows the four ways
of finding, the alternatives as a list literal, and a body that sees the first element found as
`el` (`null` if there is none) and may ask `isVisible(el)`.
-/

namespace PageScript.Target

/-- The fixed head: how each way finds its element, and how alternatives are tried in turn. -/
def resolver : String :=
  Text.ofLines
    ["",
     "const normText = (s) => (s || '').replace(/\\s+/g, ' ').trim().toLowerCase();",
     "const isVisible = (node) => \x7b",
     "  if (!node || !node.isConnected) return false;",
     "  const style = window.getComputedStyle(node);",
     "  if (style.visibility === 'hidden' || style.display === 'none') return false;",
     "  const rect = node.getBoundingClientRect();",
     "  return rect.width > 0 && rect.height > 0;",
     "\x7d;",
     "const ownText = (node) => normText(node.innerText !== undefined ? node.innerText : node.textContent);",
     "const byCss = (selector) => \x7b",
     "  const parts = selector.split('>>').map((p) => p.trim()).filter(Boolean);",
     "  let scope = [document];",
     "  for (const part of parts) \x7b",
     "    const next = [];",
     "    for (const node of scope) \x7b",
     "      if (node.shadowRoot) next.push(...node.shadowRoot.querySelectorAll(part));",
     "      next.push(...node.querySelectorAll(part));",
     "    \x7d",
     "    if (!next.length) return null;",
     "    scope = next;",
     "  \x7d",
     "  return scope[0] === document ? null : scope[0];",
     "\x7d;",
     "const byXPath = (expr) => \x7b",
     "  const result = document.evaluate(expr, document, null, XPathResult.FIRST_ORDERED_NODE_TYPE, null);",
     "  return result.singleNodeValue;",
     "\x7d;",
     "const byLabel = (label) => \x7b",
     "  const wanted = normText(label);",
     "  for (const node of document.querySelectorAll('*')) \x7b",
     "    const aria = node.getAttribute('aria-label');",
     "    if (aria && normText(aria).includes(wanted)) return node;",
     "    const labelledBy = node.getAttribute('aria-labelledby');",
     "    if (labelledBy) \x7b",
     "      const text = labelledBy.split(/\\s+/).map((id) => \x7b",
     "        const ref = document.getElementById(id);",
     "        return ref ? ref.textContent : '';",
     "      \x7d).join(' ');",
     "      if (normText(text).includes(wanted)) return node;",
     "    \x7d",
     "    if (node.tagName === 'LABEL' && node.control && normText(node.textContent).includes(wanted)) \x7b",
     "      return node.control;",
     "    \x7d",
     "  \x7d",
     "  return null;",
     "\x7d;",
     "const SKIP_TEXT = new Set(['SCRIPT', 'STYLE', 'NOSCRIPT', 'TEMPLATE', 'HEAD']);",
     "const byText = (text) => \x7b",
     "  const wanted = normText(text);",
     "  const root = document.body || document.documentElement;",
     "  if (!root) return null;",
     "  const walker = document.createTreeWalker(root, NodeFilter.SHOW_ELEMENT);",
     "  let best = null;",
     "  for (let node = walker.currentNode; node; node = walker.nextNode()) \x7b",
     "    if (SKIP_TEXT.has(node.tagName)) continue;",
     "    if (!ownText(node).includes(wanted)) continue;",
     "    const inChild = Array.from(node.children).some((c) => !SKIP_TEXT.has(c.tagName) && ownText(c).includes(wanted));",
     "    if (!inChild) \x7b best = node; break; \x7d",
     "  \x7d",
     "  return best;",
     "\x7d;",
     "const resolveTarget = (alternatives) => \x7b",
     "  for (const alt of alternatives) \x7b",
     "    let found = null;",
     "    try \x7b",
     "      if (alt.by === 'label') found = byLabel(alt.value);",
     "      else if (alt.by === 'text') found = byText(alt.value);",
     "      else if (alt.by === 'xpath') found = byXPath(alt.value);",
     "      else found = byCss(alt.value);",
     "    \x7d catch (e) \x7b",
     "      found = null;",
     "    \x7d",
     "    if (found) return found;",
     "  \x7d",
     "  return null;",
     "\x7d;",
     ""]

/-- The alternatives as a list literal. -/
def alternativesLiteral (alternatives : List Locator) : String :=
  Json.print (.array (alternatives.map Locator.toJson))

/-- The expression that finds the first of the alternatives and evaluates a body for it. -/
def scriptFor (alternatives : List Locator) (body : String) : String :=
  "(() => \x7b\n" ++ resolver ++ "\nconst el = resolveTarget(" ++ alternativesLiteral alternatives
    ++ ");\n" ++ body ++ "\n\x7d)()"

end PageScript.Target
