import Phrasebook.Bank.Document

/-!
# Phrasebook.Bank.Sample

The word bank that comes with the library, for use where no other is named.
-/

namespace Phrasebook

namespace Bank

def sampleDocument : Value :=
  .object [
    ("01p", .object [
      ("01", .ofTexts
      ["قاشق", "چنگال", "لیوان", "کلید", "ساعت 12"]),
      ("02", .ofTexts ["سلام", "خداحافظ", "صبح بخیر"]),
      ("03", .ofTexts ["تایتانیک", "پدرخوانده"])]),
    ("03p", .object [
      ("01", .ofTexts
      ["چتر", "آینه", "عینک آفتابی", "کیف پول", "ساعت دیواری", "ماشین لباسشویی"]),
      ("02", .ofTexts
      ["دوستی", "مهمانی", "سفر", "روز تولد"]),
      ("03", .ofTexts
      ["کلاه قرمزی", "شهرزاد", "ارباب حلقه ها", "هری پاتر"]),
      ("04", .ofTexts
      ["حافظ", "سعدی", "فردوسی", "ابن سینا"]),
      ("05", .ofTexts ["تخت جمشید", "میدان نقش جهان", "برج میلاد"]),
      ("06", .ofTexts
      ["فوتبال", "والیبال", "کشتی", "دوچرخه سواری"]),
      ("07", .ofTexts
      ["تلسکوپ", "هوش مصنوعی", "کامپیوتر", "ماهواره"]),
      ("08", .ofTexts
      ["قورمه سبزی", "کباب کوبیده", "آش رشته", "شیر برنج"]),
      ("09", .ofTexts
      ["زرافه", "پلنگ ایرانی", "فیل", "کانگورو"]),
      ("10", .ofTexts
      ["خلبان", "آتش نشان", "نانوا", "معلم"]),
      ("11", .ofTexts
      ["شازده کوچولو", "بوف کور", "کلیدر", "1984"]),
      ("12", .ofTexts ["انقلاب مشروطه", "جنگ جهانی دوم", "کوروش کبیر"]),
      ("13", .ofTexts ["کار نیکو کردن از پر کردن است", "دیوار موش دارد موش هم گوش دارد"]),
      ("14", .ofTexts ["امید", "آزادی", "عدالت"]),
      ("15", .ofTexts
      ["تهران", "اصفهان", "پاریس", "توکیو"]),
      ("16", .ofTexts
      ["سه تار", "ویولن", "تار", "کمانچه"]),
      ("17", .ofTexts ["قایم باشک", "گرگم به هوا", "لی لی"]),
      ("18", .ofTexts ["تام و جری", "پت و مت", "باب اسفنجی"]),
      ("19", .ofTexts ["محمدرضا گلزار", "ترانه علیدوستی"]),
      ("20", .ofTexts
      ["رئال مادرید", "پرسپولیس", "استقلال", "جام جهانی 2022"])]),
    ("05p", .object [
      ("01", .ofTexts ["میکروسکوپ الکترونی", "دستگاه ضبط صوت"]),
      ("12", .ofTexts ["جنگ چالدران", "نهضت ملی شدن نفت"]),
      ("13", .ofTexts ["آب که از سر گذشت چه یک وجب چه صد وجب"])])]

end Bank

end Phrasebook
