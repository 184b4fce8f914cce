/-!
# The page

The page shows the strongest couplings and the coupling table in a browser, and follows the events of the
server.
-/

set_option autoImplicit false

namespace CallCoupling.Page

/-- The lines of the page. -/
def lines : List String :=
  ["<!DOCTYPE html>",
    "<html lang=\"en\">",
    "<head>",
    "  <meta charset=\"utf-8\">",
    "  <title>Class Coupling Analyzer</title>",
    "  <style>",
    "    body \x7b font-family: sans-serif; margin: 2em; \x7d",
    "    #status \x7b color: #555; margin-bottom: 1em; \x7d",
    "    table \x7b border-collapse: collapse; \x7d",
    "    th, td \x7b border: 1px solid #ccc; padding: 2px 6px; text-align: right; \x7d",
    "    th \x7b background: #f4f4f4; \x7d",
    "    td.zero \x7b color: #bbb; \x7d",
    "  </style>",
    "</head>",
    "<body>",
    "  <h1>Class coupling</h1>",
    "  <div id=\"status\">Connecting...</div>",
    "  <h2>Strongest couplings</h2>",
    "  <ol id=\"pairs\"></ol>",
    "  <h2>Coupling matrix</h2>",
    "  <table id=\"matrix\"></table>",
    "",
    "  <script>",
    "    const statusEl = document.getElementById('status');",
    "    const pairsEl = document.getElementById('pairs');",
    "    const matrixEl = document.getElementById('matrix');",
    "",
    "    function cell(tag, text, cls) \x7b",
    "      const el = document.createElement(tag);",
    "      el.textContent = text;",
    "      if (cls) el.className = cls;",
    "      return el;",
    "    \x7d",
    "",
    "    async function loadCoupling() \x7b",
    "      const res = await fetch('/api/coupling');",
    "      const data = await res.json();",
    "",
    "      pairsEl.replaceChildren(...data.pairs.slice(0, 20).map(p =>",
    "        cell('li', p.a === p.b ? `$\x7bp.a\x7d (self): $\x7bp.strength\x7d` : `$\x7bp.a\x7d / $\x7bp.b\x7d: $\x7bp.strength\x7d`)));",
    "",
    "      const header = document.createElement('tr');",
    "      header.append(cell('th', ''), ...data.labels.map(l => cell('th', l)));",
    "      const rows = data.rows.map((row, i) => \x7b",
    "        const tr = document.createElement('tr');",
    "        tr.append(cell('th', data.labels[i]), ...row.map(v => cell('td', v, v === 0 ? 'zero' : '')));",
    "        return tr;",
    "      \x7d);",
    "      matrixEl.replaceChildren(header, ...rows);",
    "    \x7d",
    "",
    "    const status = new EventSource('/api/subscribe/analysis_status');",
    "    status.onmessage = e => \x7b",
    "      const s = JSON.parse(e.data).data;",
    "      statusEl.textContent = s.total ? `[$\x7bs.step\x7d/$\x7bs.total\x7d] $\x7bs.message\x7d` : s.message;",
    "    \x7d;",
    "",
    "    const coupling = new EventSource('/api/subscribe/coupling');",
    "    coupling.onmessage = () => loadCoupling();",
    "",
    "    loadCoupling();",
    "  </script>",
    "</body>",
    "</html>"]

/-- The page. -/
def text : String := String.join (lines.map (· ++ "\n"))

end CallCoupling.Page
