import Folio.Assets.Catalogue

/-! The assets that come with the library, line by line. -/
namespace Folio.Assets.Bundled

def lines (texts : List String) : String :=
  texts.foldr (fun text rest => text ++ "\n" ++ rest) ""

def normalizeCss : String := lines [
  "/*! normalize.css v8.0.1 | MIT License | github.com/necolas/normalize.css */",
  "html\x7bline-height:1.15;-webkit-text-size-adjust:100%\x7d",
  "body\x7bmargin:0\x7d",
  "main\x7bdisplay:block\x7d",
  "h1\x7bfont-size:2em;margin:.67em 0\x7d",
  "hr\x7bbox-sizing:content-box;height:0;overflow:visible\x7d",
  "pre\x7bfont-family:monospace,monospace;font-size:1em\x7d",
  "a\x7bbackground-color:transparent\x7d",
  "abbr[title]\x7bborder-bottom:none;text-decoration:underline;text-decoration:underline do" ++
    "tted\x7d",
  "b,strong\x7bfont-weight:bolder\x7d",
  "code,kbd,samp\x7bfont-family:monospace,monospace;font-size:1em\x7d",
  "small\x7bfont-size:80%\x7d",
  "sub,sup\x7bfont-size:75%;line-height:0;position:relative;vertical-align:baseline\x7d",
  "sub\x7bbottom:-.25em\x7d",
  "sup\x7btop:-.5em\x7d",
  "img\x7bborder-style:none\x7d",
  "button,input,optgroup,select,textarea\x7bfont-family:inherit;font-size:100%;line-height:" ++
    "1.15;margin:0\x7d",
  "button,input\x7boverflow:visible\x7d",
  "button,select\x7btext-transform:none\x7d",
  "[type=button],[type=reset],[type=submit],button\x7b-webkit-appearance:button\x7d",
  "fieldset\x7bpadding:.35em .75em .625em\x7d",
  "legend\x7bbox-sizing:border-box;color:inherit;display:table;max-width:100%;padding:0;whi" ++
    "te-space:normal\x7d",
  "progress\x7bvertical-align:baseline\x7d",
  "textarea\x7boverflow:auto\x7d",
  "[type=checkbox],[type=radio]\x7bbox-sizing:border-box;padding:0\x7d",
  "details\x7bdisplay:block\x7d",
  "summary\x7bdisplay:list-item\x7d",
  "template\x7bdisplay:none\x7d",
  "[hidden]\x7bdisplay:none\x7d"]

def styleCss : String := lines [
  ":root \x7b",
  "  --fg: #1f2328;",
  "  --fg-discreet: #656d76;",
  "  --bg: #ffffff;",
  "  --bg-code: #f6f8fa;",
  "  --border: #d0d7de;",
  "  --accent: #0969da;",
  "\x7d",
  "",
  "@media (prefers-color-scheme: dark) \x7b",
  "  :root \x7b",
  "    --fg: #e6edf3;",
  "    --fg-discreet: #8d96a0;",
  "    --bg: #0d1117;",
  "    --bg-code: #161b22;",
  "    --border: #30363d;",
  "    --accent: #4493f8;",
  "  \x7d",
  "\x7d",
  "",
  "body \x7b",
  "  font-family: -apple-system, BlinkMacSystemFont, \"Segoe UI\", Roboto, \"Helvetica Neue" ++
    "\", Arial, sans-serif;",
  "  line-height: 1.6;",
  "  color: var(--fg);",
  "  background-color: var(--bg);",
  "\x7d",
  "",
  "header \x7b",
  "  padding: 2rem 1rem 1rem;",
  "  text-align: center;",
  "\x7d",
  "",
  "#doctitle \x7b",
  "  font-size: 2.2rem;",
  "  font-weight: 600;",
  "  margin: 0;",
  "\x7d",
  "",
  ".docinfo \x7b",
  "  display: flex;",
  "  align-items: center;",
  "  justify-content: center;",
  "  gap: 0.5rem;",
  "  color: var(--fg-discreet);",
  "\x7d",
  "",
  ".docinfo svg \x7b",
  "  width: 1.1em;",
  "  height: 1.1em;",
  "  fill: currentColor;",
  "\x7d",
  "",
  ".discreet \x7b",
  "  font-size: 0.9em;",
  "\x7d",
  "",
  "#license \x7b",
  "  flex-wrap: wrap;",
  "  margin: 3rem 0 1rem;",
  "\x7d",
  "",
  "#license hr \x7b",
  "  flex-basis: 100%;",
  "  border: none;",
  "  border-top: 1px solid var(--border);",
  "\x7d",
  "",
  ".flex-container \x7b",
  "  display: flex;",
  "  flex-direction: row-reverse;",
  "  justify-content: center;",
  "  gap: 2rem;",
  "  padding: 0 1rem;",
  "\x7d",
  "",
  ".main-content \x7b",
  "  flex: 0 1 48rem;",
  "  min-width: 0;",
  "\x7d",
  "",
  ".container-lvl2,",
  ".container-lvl3,",
  ".container-lvl4,",
  ".container-lvl5,",
  ".container-lvl6 \x7b",
  "  margin-left: 0;",
  "\x7d",
  "",
  "h1, h2, h3, h4, h5, h6 \x7b",
  "  line-height: 1.25;",
  "  margin: 1.5rem 0 0.5rem;",
  "\x7d",
  "",
  "a \x7b",
  "  color: var(--accent);",
  "  text-decoration: none;",
  "\x7d",
  "",
  "a:hover \x7b",
  "  text-decoration: underline;",
  "\x7d",
  "",
  "code \x7b",
  "  background-color: var(--bg-code);",
  "  border-radius: 4px;",
  "  padding: 0.15em 0.35em;",
  "  font-size: 0.9em;",
  "\x7d",
  "",
  "pre \x7b",
  "  background-color: var(--bg-code);",
  "  border-radius: 6px;",
  "  padding: 1rem;",
  "  overflow-x: auto;",
  "\x7d",
  "",
  "pre code \x7b",
  "  background-color: transparent;",
  "  padding: 0;",
  "\x7d",
  "",
  "blockquote \x7b",
  "  margin-left: 0;",
  "  padding-left: 1rem;",
  "  border-left: 4px solid var(--border);",
  "  color: var(--fg-discreet);",
  "\x7d",
  "",
  "hr \x7b",
  "  border: none;",
  "  border-top: 1px solid var(--border);",
  "\x7d",
  "",
  ".katex-display \x7b",
  "  display: block;",
  "  text-align: center;",
  "  overflow-x: auto;",
  "\x7d",
  "",
  ".mermaid \x7b",
  "  display: flex;",
  "  justify-content: center;",
  "  margin: 1rem 0;",
  "\x7d",
  "",
  ".summary-container \x7b",
  "  flex: 0 0 16rem;",
  "\x7d",
  "",
  ".summary \x7b",
  "  position: sticky;",
  "  top: 1rem;",
  "  max-height: calc(100vh - 2rem);",
  "  overflow-y: auto;",
  "  font-size: 0.9em;",
  "\x7d",
  "",
  ".summary > p \x7b",
  "  font-weight: 600;",
  "  margin: 0 0 0.5rem;",
  "\x7d",
  "",
  ".summary-content a \x7b",
  "  display: block;",
  "  color: var(--fg-discreet);",
  "  padding: 0.1rem 0;",
  "\x7d",
  "",
  ".summary-content a:hover \x7b",
  "  color: var(--accent);",
  "\x7d",
  "",
  ".summary-content .lvl2 \x7b padding-left: 1rem; \x7d",
  ".summary-content .lvl3 \x7b padding-left: 2rem; \x7d",
  ".summary-content .lvl4 \x7b padding-left: 3rem; \x7d",
  ".summary-content .lvl5 \x7b padding-left: 4rem; \x7d",
  ".summary-content .lvl6 \x7b padding-left: 5rem; \x7d",
  "",
  "@media (max-width: 60rem) \x7b",
  "  .summary-container \x7b",
  "    display: none;",
  "  \x7d",
  "\x7d"]

def katexCss : String := lines [
  "/* KaTeX stylesheet. Replaced by katex/dist/katex.min.css (fonts inlined) when release a" ++
    "ssets are bundled. */",
  ".katex\x7bfont:normal 1.21em KaTeX_Main,Times New Roman,serif;line-height:1.2;text-inden" ++
    "t:0;text-rendering:auto\x7d",
  ".katex-display\x7bdisplay:block;margin:1em 0;text-align:center\x7d",
  ".katex-display>.katex\x7bdisplay:block;text-align:center;white-space:nowrap\x7d"]

def katexJs : String := lines [
  "/* KaTeX runtime. Replaced by katex/dist/katex.min.js when release assets are bundled. */"]

def prismCss : String := lines [
  "/* PrismJS default theme, adapted for light and dark color schemes */",
  "code[class*=\"language-\"],",
  "pre[class*=\"language-\"] \x7b",
  "  text-align: left;",
  "  white-space: pre;",
  "  word-spacing: normal;",
  "  word-break: normal;",
  "  tab-size: 4;",
  "  hyphens: none;",
  "\x7d",
  "",
  ".token.comment,",
  ".token.prolog,",
  ".token.doctype,",
  ".token.cdata \x7b color: #6a737d; \x7d",
  "",
  ".token.punctuation \x7b color: #999; \x7d",
  "",
  ".token.property,",
  ".token.tag,",
  ".token.boolean,",
  ".token.number,",
  ".token.constant,",
  ".token.symbol \x7b color: #905; \x7d",
  "",
  ".token.selector,",
  ".token.attr-name,",
  ".token.string,",
  ".token.char,",
  ".token.builtin \x7b color: #690; \x7d",
  "",
  ".token.operator,",
  ".token.entity,",
  ".token.url \x7b color: #9a6e3a; \x7d",
  "",
  ".token.atrule,",
  ".token.attr-value,",
  ".token.keyword \x7b color: #07a; \x7d",
  "",
  ".token.function,",
  ".token.class-name \x7b color: #dd4a68; \x7d",
  "",
  ".token.regex,",
  ".token.important,",
  ".token.variable \x7b color: #e90; \x7d",
  "",
  "@media (prefers-color-scheme: dark) \x7b",
  "  .token.comment, .token.prolog, .token.doctype, .token.cdata \x7b color: #8b949e; \x7d",
  "  .token.property, .token.tag, .token.boolean, .token.number, .token.constant, .token.sy" ++
    "mbol \x7b color: #79c0ff; \x7d",
  "  .token.selector, .token.attr-name, .token.string, .token.char, .token.builtin \x7b col" ++
    "or: #a5d6ff; \x7d",
  "  .token.atrule, .token.attr-value, .token.keyword \x7b color: #ff7b72; \x7d",
  "  .token.function, .token.class-name \x7b color: #d2a8ff; \x7d",
  "  .token.regex, .token.important, .token.variable \x7b color: #ffa657; \x7d",
  "\x7d"]

def prismJs : String := lines [
  "/* PrismJS core. Replaced by prismjs/prism.js when release assets are bundled. */"]

def mermaidJs : String := lines [
  "/* Mermaid runtime. Replaced by mermaid/dist/mermaid.min.js when release assets are bund" ++
    "led. */"]

def authorIcon : String := lines [
  "<svg xmlns=\"http://www.w3.org/2000/svg\" viewBox=\"0 0 24 24\" aria-hidden=\"true\"><pa" ++
    "th d=\"M12 12a5 5 0 1 0 0-10 5 5 0 0 0 0 10zm0 2c-4.42 0-8 2.24-8 5v1a1 1 0 0 0 1 1h14a1" ++
    " 1 0 0 0 1-1v-1c0-2.76-3.58-5-8-5z\"/></svg>"]

def licenseIcon : String := lines [
  "<svg xmlns=\"http://www.w3.org/2000/svg\" viewBox=\"0 0 24 24\" aria-hidden=\"true\"><pa" ++
    "th d=\"M6 2h12a2 2 0 0 1 2 2v16a2 2 0 0 1-2 2H6a2 2 0 0 1-2-2V4a2 2 0 0 1 2-2zm0 2v13h12" ++
    "V4H6zm5 15a1 1 0 1 0 2 0 1 1 0 0 0-2 0zM8 6h8v2H8V6zm0 4h8v2H8v-2z\"/></svg>"]

def bashGrammar : String := lines [
  "Prism.languages.bash=\x7bshebang:\x7bpattern:/^#!\\s*\\/.*/,alias:\"important\"\x7d,comm" ++
    "ent:\x7bpattern:/(^|[^\"\x7b\\\\$])#.*/,lookbehind:!0\x7d,\"function-name\":[\x7bpattern" ++
    ":/(\\bfunction\\s+)[\\w-]+(?=(?:\\s*\\(?:\\s*\\))?\\s*\\\x7b)/,lookbehind:!0,alias:\"fun" ++
    "ction\"\x7d,\x7bpattern:/\\b[\\w-]+(?=\\s*\\(\\s*\\)\\s*\\\x7b)/,alias:\"function\"\x7d]" ++
    ",string:[\x7bpattern:/(^|[^\\\\](?:\\\\\\\\)*)\"(?:\\\\[\\s\\S]|\\$\\([^)]+\\)|\\$(?!\\(" ++
    ")|`[^`]+`|[^\"\\\\`$])*\"/,lookbehind:!0,greedy:!0\x7d,\x7bpattern:/(^|[^$\\\\])'[^']*'/" ++
    ",lookbehind:!0,greedy:!0\x7d],variable:/\\$(?:\\w+|[#?*!@$])|\\$\\\x7b[^\x7d]+\\\x7d/,ke" ++
    "yword:\x7bpattern:/(^|[\\s;|&]|[<>]\\()(?:case|do|done|elif|else|esac|fi|for|function|if" ++
    "|in|select|then|until|while)(?=$|[)\\s;|&])/,lookbehind:!0\x7d,builtin:\x7bpattern:/(^|[" ++
    "\\s;|&]|[<>]\\()(?:\\.|:|alias|cd|declare|echo|eval|exec|exit|export|local|printf|read|r" ++
    "eadonly|return|set|shift|source|test|trap|unset)(?=$|[)\\s;|&])/,lookbehind:!0,alias:\"c" ++
    "lass-name\"\x7d,boolean:\x7bpattern:/(^|[\\s;|&]|[<>]\\()(?:false|true)(?=$|[)\\s;|&])/," ++
    "lookbehind:!0\x7d,number:\x7bpattern:/(^|\\s)(?:[1-9]\\d*|0)(?:[.,]\\d+)?\\b/,lookbehind" ++
    ":!0\x7d,operator:\x7bpattern:/\\d?<>|>\\||\\+=|=[=~]?|!=?|<<[<-]?|[&\\d]?>>|\\d[<>]&?|[<" ++
    ">][&=]?|&[>&]?|\\|[&|]?/\x7d,punctuation:/\\$?\\(\\(?|\\)\\)?|\\.\\.|[\x7b\x7d[\\];\\\\]" ++
    "/\x7d;",
  "Prism.languages.sh=Prism.languages.shell=Prism.languages.bash;"]

def cGrammar : String := lines [
  "Prism.languages.c=\x7bcomment:\x7bpattern:/\\/\\/(?:[^\\r\\n\\\\]|\\\\(?:\\r\\n?|\\n|(?!" ++
    "[\\r\\n])))*|\\/\\*[\\s\\S]*?(?:\\*\\/|$)/,greedy:!0\x7d,string:\x7bpattern:/\"(?:\\\\(?" ++
    ":\\r\\n|[\\s\\S])|[^\"\\\\\\r\\n])*\"/,greedy:!0\x7d,char:\x7bpattern:/'(?:\\\\(?:\\r\\n" ++
    "|[\\s\\S])|[^'\\\\\\r\\n])\x7b0,32\x7d'/,greedy:!0\x7d,macro:\x7bpattern:/(^[\\t ]*)#\\s" ++
    "*[a-z](?:[^\\r\\n\\\\/]|\\/(?!\\*)|\\/\\*(?:[^*]|\\*(?!\\/))*\\*\\/|\\\\(?:\\r\\n|[\\s\\" ++
    "S]))*/im,lookbehind:!0,greedy:!0,alias:\"property\"\x7d,\"class-name\":\x7bpattern:/(\\b" ++
    "(?:enum|struct)\\s+(?:__attribute__\\s*\\(\\([\\s\\S]*?\\)\\)\\s*)?)\\w+|\\b[a-z]\\w*_t" ++
    "\\b/,lookbehind:!0\x7d,keyword:/\\b(?:_Alignas|_Alignof|_Atomic|_Bool|_Complex|_Generic|" ++
    "_Imaginary|_Noreturn|_Static_assert|_Thread_local|__attribute__|asm|auto|break|case|char" ++
    "|const|continue|default|do|double|else|enum|extern|float|for|goto|if|inline|int|long|reg" ++
    "ister|return|short|signed|sizeof|static|struct|switch|typedef|typeof|union|unsigned|void" ++
    "|volatile|while)\\b/,function:/\\b[a-z_]\\w*(?=\\s*\\()/i,number:/(?:\\b0x(?:[\\da-f]+(?" ++
    ":\\.[\\da-f]*)?|\\.[\\da-f]+)(?:p[+-]?\\d+)?|(?:\\b\\d+(?:\\.\\d*)?|\\B\\.\\d+)(?:e[+-]?" ++
    "\\d+)?)[ful]\x7b0,4\x7d/i,operator:/>>=?|<<=?|->|([-+&|:])\\1|[?:~]|[-+*/%&|^!=<>]=?/,bo" ++
    "olean:/\\b(?:false|true)\\b/,punctuation:/[\x7b\x7d[\\];(),.:]/\x7d;"]

def javascriptGrammar : String := lines [
  "Prism.languages.javascript=\x7bcomment:[\x7bpattern:/(^|[^\\\\])\\/\\*[\\s\\S]*?(?:\\*\\" ++
    "/|$)/,lookbehind:!0,greedy:!0\x7d,\x7bpattern:/(^|[^\\\\:])\\/\\/.*/,lookbehind:!0,greed" ++
    "y:!0\x7d],\"template-string\":\x7bpattern:/`(?:\\\\[\\s\\S]|\\$\\\x7b(?:[^\x7b\x7d]|\\" ++
    "\x7b(?:[^\x7b\x7d]|\\\x7b[^\x7d]*\\\x7d)*\\\x7d)+\\\x7d|(?!\\$\\\x7b)[^\\\\`])*`/,greedy" ++
    ":!0,alias:\"string\"\x7d,string:\x7bpattern:/([\"'])(?:\\\\(?:\\r\\n|[\\s\\S])|(?!\\1)[^" ++
    "\\\\\\r\\n])*\\1/,greedy:!0\x7d,\"class-name\":\x7bpattern:/(\\b(?:class|extends|impleme" ++
    "nts|instanceof|interface|new)\\s+)[\\w.\\\\]+/,lookbehind:!0\x7d,keyword:/\\b(?:as|async" ++
    "|await|break|case|catch|class|const|continue|debugger|default|delete|do|else|export|exte" ++
    "nds|finally|for|from|function|get|if|import|in|instanceof|let|new|of|return|set|static|s" ++
    "uper|switch|this|throw|try|typeof|var|void|while|with|yield)\\b/,boolean:/\\b(?:false|tr" ++
    "ue)\\b/,function:/#?(?!\\s)[_$a-zA-Z\\xA0-\\uFFFF](?:(?!\\s)[$\\w\\xA0-\\uFFFF])*(?=\\s*" ++
    "(?:\\.\\s*(?:apply|bind|call)\\s*)?\\()/,number:/\\b(?:0[xX][\\dA-Fa-f](?:_?[\\dA-Fa-f])" ++
    "*n?|0[bB][01](?:_?[01])*n?|0[oO][0-7](?:_?[0-7])*n?|\\d(?:_?\\d)*(?:\\.\\d(?:_?\\d)*)?(?" ++
    ":[Ee][+-]?\\d(?:_?\\d)*)?n?)\\b/,operator:/--|\\+\\+|\\*\\*=?|=>|&&=?|\\|\\|=?|[!=]==|<<" ++
    "=?|>>>?=?|[-+*\\/%&|^!=<>]=?|\\.\x7b3\x7d|\\?\\?=?|\\?\\.?|[~:]/,punctuation:/[\x7b\x7d[" ++
    "\\];(),.:]/\x7d;",
  "Prism.languages.js=Prism.languages.javascript;"]

def jsonGrammar : String := lines [
  "Prism.languages.json=\x7bproperty:\x7bpattern:/(^|[^\\\\])\"(?:\\\\.|[^\\\\\"\\r\\n])*\"" ++
    "(?=\\s*:)/,lookbehind:!0,greedy:!0\x7d,string:\x7bpattern:/(^|[^\\\\])\"(?:\\\\.|[^\\\\" ++
    "\"\\r\\n])*\"(?!\\s*:)/,lookbehind:!0,greedy:!0\x7d,comment:\x7bpattern:/\\/\\/.*|\\/\\*" ++
    "[\\s\\S]*?(?:\\*\\/|$)/,greedy:!0\x7d,number:/-?\\b\\d+(?:\\.\\d+)?(?:e[+-]?\\d+)?\\b/i," ++
    "punctuation:/[\x7b\x7d[\\],]/,operator:/:/,boolean:/\\b(?:false|true)\\b/,null:\x7bpatte" ++
    "rn:/\\bnull\\b/,alias:\"keyword\"\x7d\x7d;"]

def pythonGrammar : String := lines [
  "Prism.languages.python=\x7bcomment:\x7bpattern:/(^|[^\\\\])#.*/,lookbehind:!0,greedy:!0" ++
    "\x7d,\"triple-quoted-string\":\x7bpattern:/(?:[rub]|br|rb)?(\"\"\"|''')[\\s\\S]*?\\1/i,g" ++
    "reedy:!0,alias:\"string\"\x7d,string:\x7bpattern:/(?:[rub]|br|rb)?(\"|')(?:\\\\.|(?!\\1)" ++
    "[^\\\\\\r\\n])*\\1/i,greedy:!0\x7d,function:\x7bpattern:/((?:^|\\s)def[ \\t]+)[a-zA-Z_]" ++
    "\\w*(?=\\s*\\()/g,lookbehind:!0\x7d,\"class-name\":\x7bpattern:/(\\bclass\\s+)\\w+/i,loo" ++
    "kbehind:!0\x7d,decorator:\x7bpattern:/(^[\\t ]*)@\\w+(?:\\.\\w+)*/m,lookbehind:!0,alias:" ++
    "[\"annotation\",\"punctuation\"]\x7d,keyword:/\\b(?:_(?=\\s*:)|and|as|assert|async|await" ++
    "|break|case|class|continue|def|del|elif|else|except|exec|finally|for|from|global|if|impo" ++
    "rt|in|is|lambda|match|nonlocal|not|or|pass|print|raise|return|try|while|with|yield)\\b/," ++
    "builtin:/\\b(?:__import__|abs|all|any|bool|bytes|dict|enumerate|filter|float|getattr|has" ++
    "attr|int|isinstance|len|list|map|max|min|object|open|print|range|repr|set|sorted|str|sum" ++
    "|super|tuple|type|zip)\\b/,boolean:/\\b(?:False|None|True)\\b/,number:/\\b0(?:b(?:_?[01]" ++
    ")+|o(?:_?[0-7])+|x(?:_?[a-f0-9])+)\\b|(?:\\b\\d+(?:_\\d+)*(?:\\.(?:\\d+(?:_\\d+)*)?)?|\\" ++
    "B\\.\\d+(?:_\\d+)*)(?:e[+-]?\\d+(?:_\\d+)*)?j?(?!\\w)/i,operator:/[-+%=]=?|!=|:=|\\*\\*?" ++
    "=?|\\/\\/?=?|<[<=>]?|>[=>]?|[&|^~]/,punctuation:/[\x7b\x7d[\\];(),.:]/\x7d;",
  "Prism.languages.py=Prism.languages.python;"]

def rustGrammar : String := lines [
  "Prism.languages.rust=\x7bcomment:[\x7bpattern:/(^|[^\\\\])\\/\\*[\\s\\S]*?\\*\\//,lookbe" ++
    "hind:!0,greedy:!0\x7d,\x7bpattern:/(^|[^\\\\:])\\/\\/.*/,lookbehind:!0,greedy:!0\x7d],st" ++
    "ring:\x7bpattern:/b?\"(?:\\\\[\\s\\S]|[^\\\\\"])*\"|b?r(#*)\"(?:[^\"]|\"(?!\\1))*\"\\1/," ++
    "greedy:!0\x7d,char:\x7bpattern:/b?'(?:\\\\(?:x[0-7][\\da-fA-F]|u\\\x7b(?:[\\da-fA-F]_*)" ++
    "\x7b1,6\x7d\\\x7d|.)|[^\\\\\\r\\n\\t'])'/,greedy:!0\x7d,attribute:\x7bpattern:/#!?\\[(?:" ++
    "[^\\[\\]\"]|\"(?:\\\\[\\s\\S]|[^\\\\\"])*\")*\\]/,greedy:!0,alias:\"attr-name\"\x7d,\"li" ++
    "fetime-annotation\":\x7bpattern:/'\\w+/,alias:\"symbol\"\x7d,\"fragment-specifier\":\x7b" ++
    "pattern:/(\\$\\w+:)[a-z]+/,lookbehind:!0,alias:\"punctuation\"\x7d,variable:/\\$\\w+/,\"" ++
    "function-definition\":\x7bpattern:/(\\bfn\\s+)\\w+/,lookbehind:!0,alias:\"function\"\x7d" ++
    ",\"type-definition\":\x7bpattern:/(\\b(?:enum|struct|trait|type|union)\\s+)\\w+/,lookbeh" ++
    "ind:!0,alias:\"class-name\"\x7d,keyword:/\\b(?:Self|abstract|as|async|await|become|box|b" ++
    "reak|const|continue|crate|do|dyn|else|enum|extern|final|fn|for|if|impl|in|let|loop|macro" ++
    "|match|mod|move|mut|override|priv|pub|ref|return|self|static|struct|super|trait|try|type" ++
    "|typeof|union|unsafe|unsized|use|virtual|where|while|yield)\\b/,function:/\\b[a-z_]\\w*(" ++
    "?=\\s*(?:::\\s*<|\\())/,macro:\x7bpattern:/\\b\\w+!/,alias:\"property\"\x7d,number:/\\b(" ++
    "?:0x[\\dA-Fa-f](?:_?[\\dA-Fa-f])*|0o[0-7](?:_?[0-7])*|0b[01](?:_?[01])*|(?:(?:\\d(?:_?\\" ++
    "d)*)?\\.)?\\d(?:_?\\d)*(?:[Ee][+-]?\\d+)?)(?:_?(?:f32|f64|[iu](?:8|16|32|64|size)?))?\\b" ++
    "/,boolean:/\\b(?:false|true)\\b/,punctuation:/->|\\.\\.=|\\.\x7b1,3\x7d|::|[\x7b\x7d[\\]" ++
    ";(),:]/,operator:/[-+*\\/%!^]=?|=[=>]?|&[&=]?|\\|[|=]?|<<?=?|>>?=?|[@?]/\x7d;"]

def tomlGrammar : String := lines [
  "Prism.languages.toml=\x7bcomment:\x7bpattern:/#.*/,greedy:!0\x7d,table:\x7bpattern:/(^[" ++
    "\\t ]*\\[\\s*(?:\\[\\s*)?)(?:[\\w-]+|'[^'\\n\\r]*'|\"(?:\\\\.|[^\\\\\"\\r\\n])*\")(?:\\s" ++
    "*\\.\\s*(?:[\\w-]+|'[^'\\n\\r]*'|\"(?:\\\\.|[^\\\\\"\\r\\n])*\"))*(?=\\s*\\])/m,lookbehi" ++
    "nd:!0,greedy:!0,alias:\"class-name\"\x7d,key:\x7bpattern:/(^[\\t ]*|[\x7b,]\\s*)(?:[\\w-" ++
    "]+|'[^'\\n\\r]*'|\"(?:\\\\.|[^\\\\\"\\r\\n])*\")(?:\\s*\\.\\s*(?:[\\w-]+|'[^'\\n\\r]*'|" ++
    "\"(?:\\\\.|[^\\\\\"\\r\\n])*\"))*(?=\\s*=)/m,lookbehind:!0,greedy:!0,alias:\"property\"" ++
    "\x7d,string:\x7bpattern:/\"\"\"(?:\\\\[\\s\\S]|[^\\\\])*?\"\"\"|'''[\\s\\S]*?'''|'[^'\\n" ++
    "\\r]*'|\"(?:\\\\.|[^\\\\\"\\r\\n])*\"/,greedy:!0\x7d,date:[\x7bpattern:/\\b\\d\x7b4\x7d-" ++
    "\\d\x7b2\x7d-\\d\x7b2\x7d(?:[T\\s]\\d\x7b2\x7d:\\d\x7b2\x7d:\\d\x7b2\x7d(?:\\.\\d+)?(?:Z" ++
    "|[+-]\\d\x7b2\x7d:\\d\x7b2\x7d)?)?\\b/i,alias:\"number\"\x7d,\x7bpattern:/\\b\\d\x7b2" ++
    "\x7d:\\d\x7b2\x7d:\\d\x7b2\x7d(?:\\.\\d+)?\\b/,alias:\"number\"\x7d],number:/(?:\\b0(?:x" ++
    "[\\da-zA-Z]+(?:_[\\da-zA-Z]+)*|o[0-7]+(?:_[0-7]+)*|b[10]+(?:_[10]+)*))\\b|[-+]?\\b\\d+(?" ++
    ":_\\d+)*(?:\\.\\d+(?:_\\d+)*)?(?:[eE][+-]?\\d+(?:_\\d+)*)?\\b|[-+]?\\b(?:inf|nan)\\b/,bo" ++
    "olean:/\\b(?:false|true)\\b/,punctuation:/[.,=[\\]\x7b\x7d]/\x7d;"]

def yamlGrammar : String := lines [
  "Prism.languages.yaml=\x7bscalar:\x7bpattern:/([\\-:]\\s*(?:![^\\s]+)?[ \\t]*[|>])[ \\t]*" ++
    "(?:((?:\\r?\\n|\\r)[ \\t]+)\\S[^\\r\\n]*(?:\\2[^\\r\\n]+)*)/,lookbehind:!0,alias:\"strin" ++
    "g\"\x7d,comment:/#.*/,key:\x7bpattern:/(^[ \\t]*(?:[\\-:][ \\t]*)?)[^\\r\\n\x7b[\\]\x7d," ++
    "#\\s]+?(?=\\s*:\\s)/m,lookbehind:!0,greedy:!0,alias:\"atrule\"\x7d,directive:\x7bpattern" ++
    ":/(^[ \\t]*)%.+/m,lookbehind:!0,alias:\"important\"\x7d,boolean:\x7bpattern:/([:\\-,[" ++
    "\x7b]\\s*)(?:false|true)(?=\\s*(?:$|[,\\]\x7d]))/im,lookbehind:!0,alias:\"important\"" ++
    "\x7d,null:\x7bpattern:/([:\\-,[\x7b]\\s*)(?:null|~)(?=\\s*(?:$|[,\\]\x7d]))/im,lookbehin" ++
    "d:!0,alias:\"important\"\x7d,string:\x7bpattern:/([:\\-,[\x7b]\\s*)(?:\"(?:[^\"\\\\\\r\\" ++
    "n]|\\\\.)*\"|'(?:[^'\\\\\\r\\n]|\\\\.)*')(?=\\s*(?:$|[,\\]\x7d#]))/m,lookbehind:!0,greed" ++
    "y:!0\x7d,number:\x7bpattern:/([:\\-,[\x7b]\\s*)[+-]?(?:0x[\\da-f]+|0o[0-7]+|(?:\\d[\\d_]" ++
    "*(?:\\.[\\d_]*)?|\\.[\\d_]+)(?:e[+-]?\\d+)?|\\.inf|\\.nan)(?=\\s*(?:$|[,\\]\x7d]))/im,lo" ++
    "okbehind:!0\x7d,punctuation:/---|[:[\\]\x7b\x7d\\-,|>?]|\\.\\.\\./\x7d;",
  "Prism.languages.yml=Prism.languages.yaml;"]

def catalogue : Catalogue where
  normalizeCss := normalizeCss
  styleCss := styleCss
  katexCss := katexCss
  katexJs := katexJs
  prismCss := prismCss
  prismJs := prismJs
  mermaidJs := mermaidJs
  authorIcon := authorIcon
  licenseIcon := licenseIcon
  grammars := [
    ("bash", bashGrammar), ("c", cGrammar), ("javascript", javascriptGrammar),
    ("json", jsonGrammar), ("python", pythonGrammar), ("rust", rustGrammar), ("toml", tomlGrammar),
    ("yaml", yamlGrammar)]

end Folio.Assets.Bundled
